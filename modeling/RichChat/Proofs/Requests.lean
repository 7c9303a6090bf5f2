import RichChat.Proofs.Telling

/-!
# What the store is asked to fetch

A rendering asks for what its mentions want, each entity once and in the order of the first
mentions, and without a store for nothing (`asks_renderings`).

A nested rendering goes on with the requests of the canvas around it, so that a description asks
only for what the body did not (`Asked.nested`). Below the greatest depth it asks for nothing.
-/

namespace RichChat

namespace Canvas

variable {scene : Scene} {c : Canvas} {depth : Nat} {wanted : List FetchRequest}

/-- The requests of a canvas tell of mentions: each adds what it wants. -/
theorem telling_asked (scene : Scene) (depth : Nat) (wanted : List FetchRequest) :
    Telling scene fun targets c => c.Asked depth (wanted ++ scene.wantedAll targets) where
  stable _ := (stable_asked _ _).mono fun _ _ => trivial
  mention {targets c} target h := by
    have hmention := Asked.mention h scene target
    have hone : scene.wantedAll [target] = scene.wanted none target := List.flatMap_singleton ..
    rwa [← hone, List.append_assoc, ← scene.wantedAll_append] at hmention
  resize _ h := h

theorem asked_append_nil (h : c.Asked depth wanted) (scene : Scene) :
    c.Asked depth (wanted ++ scene.wantedAll []) := by
  rwa [scene.wantedAll_nil, List.append_nil]

theorem Asked.draw (h : c.Asked depth wanted) (scene : Scene) (node : Node) :
    (c.draw .builtin scene node).Asked depth (wanted ++ scene.wantedAll node.mentions) :=
  (telling_asked scene depth wanted).draw (asked_append_nil h scene) node

theorem Asked.document (h : c.Asked depth wanted) (scene : Scene) (node : Node) :
    (c.document .builtin scene node).Asked depth (wanted ++ scene.wantedAll node.mentions) :=
  (telling_asked scene depth wanted).document (asked_append_nil h scene) node

/-- A nested rendering asks for what its text wants, unless it is too deep. -/
theorem Asked.nested (h : c.Asked depth wanted) (scene : Scene) (source : String) :
    (c.nested .builtin scene source).Asked depth
      (wanted ++ if scene.config.maxDepth ≤ depth + 1 then []
        else scene.wantedAll (Node.ofSource source).mentions) := by
  obtain ⟨rfl, -⟩ := Prod.mk.inj h
  unfold Canvas.nested
  split
  · rw [List.append_nil]
    exact (stable_asked _ _).put h source
  · have hsplit : c.flush.splitRun.ledger = c.ledger := by
      rw [splitRun_eq]
      exact (stable_asked _ _).flush h |>.trans h.symm
    obtain ⟨hdepth, hrequested⟩ := Prod.mk.inj (hsplit.trans h)
    have hchild : (c.flush.splitRun.child scene.config).Asked (c.depth + 1) wanted :=
      Prod.ext (congrArg (· + 1) hdepth) hrequested
    have hinner := (stable_asked _ _).finish trivial (hchild.draw scene (.ofSource source))
    exact Prod.ext hdepth (Prod.mk.inj hinner).2

theorem tellingNested_asked (scene : Scene) :
    TellingNested scene 0 fun targets c => c.Asked 0 (scene.wantedAll targets) where
  stable := (telling_asked scene 0 []).stable
  mention := (telling_asked scene 0 []).mention
  resize := (telling_asked scene 0 []).resize
  nested {targets c} source h := by
    have hnested := Asked.nested h scene source
    rw [scene.wantedAll_append]
    split <;> simp_all [scene.wantedAll_nil]

end Canvas

namespace Node

section Inlines

variable {α : Type} {told : NodeKind → List α}

theorem collectAll_append (xs ys : List Node) :
    collectAll told (xs ++ ys) = collectAll told xs ++ collectAll told ys := by
  induction xs with
  | nil => rfl
  | cons x xs ih => rw [List.cons_append, collectAll, collectAll, ih, List.append_assoc]

mutual

/-- Blocks are taken apart without loss, if there is nothing to tell of the blocks themselves. -/
theorem collectAll_inlines (h : ∀ kind : NodeKind, kind.tag ≠ .mention → kind.tag ≠ .emoji →
    told kind = []) : ∀ node : Node, collectAll told node.inlines = node.collect told
  | mk kind children => by
    have hall := collectAll_inlinesAll h children
    have hkind := h kind
    have htext (s : String) : told (.text s false false) = [] := h _ nofun nofun
    cases kind <;> simp_all [inlines, collectAll, collect, NodeKind.isAtom, NodeKind.tag, Node.text,
      Node.leaf, NodeKind.plain]

theorem collectAll_inlinesAll (h : ∀ kind : NodeKind, kind.tag ≠ .mention → kind.tag ≠ .emoji →
    told kind = []) : ∀ nodes : List Node, collectAll told (inlinesAll nodes) = collectAll told nodes
  | [] => rfl
  | node :: nodes => by
    rw [inlinesAll, collectAll_append, collectAll_inlines h, collectAll_inlinesAll h, collectAll]

end

end Inlines

theorem mentionsAll_inlines (node : Node) : mentionsAll node.inlines = node.mentions := by
  rw [mentionsAll_eq_collectAll, mentions_eq_collect]
  refine collectAll_inlines (fun kind hm _ => ?_) node
  cases kind with
  | mention target => exact absurd rfl hm
  | _ => rfl

end Node

namespace Message

/-- The mentions in the line that a reply header shows. -/
def excerptMentions (message : Message) : List Reference :=
  match message.excerpt? with
  | some line => (Node.ofSource (String.ofList line)).mentions
  | none => []

end Message

/-- What has to be fetched for mentions in a text. -/
def Store.missingAll (store : Store) (message : Option Message) (targets : List Reference) :
    List FetchRequest := targets.filterMap (store.missing? message none)

/-- What has to be fetched for a reply header: for the author, who is known, and then for the
mentions in the line that is shown, which are looked up as in any other text. -/
def Store.missingReply (store : Store) (message : Message) : List FetchRequest :=
  (store.missing? (some message) (some message.author) (.user message.author.id)).toList
    ++ store.missingAll (some message) message.excerptMentions

/-- A rendering asks a store for what it wants, each entity once and in the order in which they are
first wanted. Without a store it asks for nothing. -/
structure Asks (render : Option Store → Rendered) (wanted : Store → List FetchRequest) : Prop where
  requests : ∀ store, (render (some store)).requests = (wanted store).eraseDups
  nodup : ∀ store, (render (some store)).requests.Nodup
  none : (render none).requests = []

theorem Asks.intro {render : Option Store → Rendered} {wanted : Store → List FetchRequest}
    (h : ∀ store, (render store).requests = (store.elim [] wanted).eraseDups) :
    Asks render wanted where
  requests store := h (some store)
  nodup store := by
    rw [h (some store)]
    exact nodup_eraseDups _
  none := h .none

theorem Scene.wantedAll_eq (config : Config) (message : Option Message) (store : Option Store)
    (targets : List Reference) :
    Scene.wantedAll { config, message, store } targets
      = store.elim [] (·.missingAll message targets) := by
  unfold Scene.wantedAll Scene.wanted Store.missingAll
  cases store with
  | none => simp
  | some store =>
    induction targets with
    | nil => rfl
    | cons target targets ih =>
      rw [List.flatMap_cons, ih]
      cases h : store.missing? message none target <;> simp [h]

theorem requests_compose {scene : Scene} {draw : Canvas → Canvas} {wanted : List FetchRequest}
    (h : (draw (.fresh scene.config)).Asked 0 wanted) :
    (scene.compose draw).requests = wanted.eraseDups :=
  (Prod.mk.inj ((Canvas.stable_asked _ _).finish trivial h)).2

theorem Scene.asks_renderNode (config : Config) (message : Option Message) (node : Node) :
    Asks (fun store => Scene.renderNode { config, message, store } node)
      fun store => store.missingAll message node.mentions := by
  refine .intro fun store => ?_
  rw [← Scene.wantedAll_eq config]
  exact requests_compose ((Canvas.asked_fresh config).document _ node)

theorem Message.asks_render (message : Message) (config : Config) :
    Asks (message.render config)
      fun store => store.missingAll (some message) (message.drawnMentions config) := by
  refine .intro fun store => ?_
  rw [← Scene.wantedAll_eq config]
  exact requests_compose
    ((Canvas.tellingNested_asked _).parts message (Canvas.asked_fresh config))

section Reply

variable {c : Canvas} {depth : Nat} {wanted : List FetchRequest} (scene : Scene)

theorem Canvas.Asked.excerpt (h : c.Asked depth wanted) (message : Message) :
    (c.excerpt .builtin scene message).Asked depth
      (wanted ++ scene.wantedAll message.excerptMentions) := by
  unfold Canvas.excerpt Message.excerptMentions
  cases message.excerpt? with
  | none =>
    rw [scene.wantedAll_nil, List.append_nil]
    dsimp only
    split
    · exact h
    · exact (Canvas.stable_asked _ _).writeWith h _ _
  | some line =>
    have := h.draw scene
      (.mk .document [.mk .paragraph (Node.ofSource (String.ofList line)).inlines])
    simpa [Node.mentions, Node.mentionsAll, NodeKind.mentions, NodeKind.isAtom,
      Node.mentionsAll_inlines] using this

theorem Canvas.Asked.replied (h : c.Asked depth wanted) (message : Message) :
    (c.replied .builtin scene message).Asked depth
      (wanted ++ scene.wanted (some message.author) (.user message.author.id)
        ++ scene.wantedAll message.excerptMentions) :=
  ((Canvas.stable_asked _ _).put (h.mentionUser scene _ _) ": ").excerpt scene message

end Reply

theorem Message.asks_renderReply (message : Message) (referenced : Option Message)
    (config : Config) :
    Asks (message.renderReply referenced config)
      fun store => referenced.elim [] store.missingReply := by
  refine .intro fun store => ?_
  have hput : ((Canvas.fresh config).put "↪ ").Asked 0 [] :=
    (Canvas.stable_asked _ _).put (Canvas.asked_fresh config) _
  -- The reference to the message as a whole makes no request.
  unfold Message.renderReply
  refine requests_compose ?_
  cases referenced with
  | none =>
    have : store.elim [] (fun store => Option.elim none [] store.missingReply) = [] := by
      cases store <;> rfl
    rw [this]
    have hdeleted := (Canvas.stable_asked _ _).writeWith hput .italic "Original message was deleted"
    dsimp only
    split
    · exact (Canvas.stable_asked _ _).emitAll hdeleted trivial
    · exact hdeleted
  | some m =>
    let scene : Scene := { config, message := some m, store }
    have hwanted : store.elim [] (·.missingReply m)
        = scene.wanted (some m.author) (.user m.author.id)
          ++ scene.wantedAll m.excerptMentions := by
      rw [Scene.wantedAll_eq]
      cases store <;> rfl
    have := hput.replied scene m
    rw [List.nil_append, ← hwanted] at this
    exact (Canvas.stable_asked _ _).emitAll this trivial

/-- Messages, reply headers and trees ask for what their mentions want. -/
theorem asks_renderings (config : Config) :
    (∀ message : Message, Asks (message.render config)
      fun store => store.missingAll (some message) (message.drawnMentions config)) ∧
    (∀ (message : Message) (referenced : Option Message),
      Asks (message.renderReply referenced config)
        fun store => referenced.elim [] store.missingReply) ∧
    ∀ (message : Option Message) (node : Node),
      Asks (fun store => Scene.renderNode { config, message, store } node)
        fun store => store.missingAll message node.mentions :=
  ⟨fun message => message.asks_render config,
    fun message referenced => message.asks_renderReply referenced config,
    Scene.asks_renderNode config⟩

end RichChat
