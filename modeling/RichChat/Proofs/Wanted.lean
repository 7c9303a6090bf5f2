import Mathlib.Data.List.Induction
import RichChat.Proofs.Stable

/-!
# What a mention wants

A mention that is not found wants its entity to be fetched (`Store.missing?`). The requests of a
canvas are what was wanted on it, each once and in the order in which it was first wanted
(`Canvas.Asked`). A mention adds what it wants (`Asked.mention`), and nothing else adds to the
requests of a canvas or changes its depth, which the property also holds fast (`stable_asked`).
-/

namespace RichChat

section EraseDups

variable {α : Type} [DecidableEq α]

theorem eraseDups_concat (xs : List α) (x : α) :
    (xs ++ [x]).eraseDups = if x ∈ xs then xs.eraseDups else xs.eraseDups ++ [x] := by
  rw [List.eraseDups_append]
  by_cases h : x ∈ xs
  · simp [List.removeAll, h]
  · simp [List.removeAll, h, List.eraseDups_cons]

theorem nodup_eraseDups (xs : List α) : xs.eraseDups.Nodup := by
  induction xs using List.reverseRecOn with
  | nil => simp
  | append_singleton xs x ih =>
    rw [eraseDups_concat]
    split
    · exact ih
    · rename_i hx
      refine List.nodup_append.2 ⟨ih, by simp, fun a ha b hb hab => hx ?_⟩
      rw [← List.mem_singleton.1 hb, ← hab]
      exact List.mem_eraseDups.1 ha

end EraseDups

/-- What has to be fetched of a mentioned entity. Members and roles are known by guild. Without a
guild a user can also be known from the message, or be the one who is passed as `known`. -/
def Store.missing? (store : Store) (message : Option Message) (known : Option User) :
    Reference → Option FetchRequest
  | .user id =>
    match message.bind (·.guild) with
    | some guild => if (store.member guild id).isNone then some (.member guild id) else none
    | none =>
      let listed := (message.map (·.mentions)).getD []
      if known.isNone ∧ (∀ user ∈ listed, user.id ≠ id) ∧ (store.user id).isNone then
        some (.user id)
      else none
  | .role id =>
    match message.bind (·.guild) with
    | some guild => if (store.role guild id).isNone then some (.role guild id) else none
    | none => none
  | .channel id => if (store.channel id).isNone then some (.channel id) else none

/-- Whether a node is drawn without its children. -/
def NodeKind.isAtom : NodeKind → Bool
  | .autolink _ | .codeBlock _ _ | .thematicBreak | .mention _ | .emoji _ => true
  | .document | .paragraph | .heading _ | .text _ _ _ | .inline _ | .link _ | .blockquote
  | .list _ | .listItem => false

def NodeKind.mentions : NodeKind → List Reference
  | .mention target => [target]
  | _ => []

namespace Node

mutual

/-- The mentions that are drawn of a tree, from left to right. -/
def mentions : Node → List Reference
  | mk kind children => kind.mentions ++ if kind.isAtom then [] else mentionsAll children

def mentionsAll : List Node → List Reference
  | [] => []
  | node :: nodes => node.mentions ++ mentionsAll nodes

end

end Node

namespace Canvas

/-- The depth of a canvas and what the store was asked for. -/
def ledger (c : Canvas) : Nat × List FetchRequest := (c.depth, c.requested)

/-- A canvas of a depth whose requests are those that were `wanted`, each at its first place. -/
def Asked (c : Canvas) (depth : Nat) (wanted : List FetchRequest) : Prop :=
  c.ledger = (depth, wanted.eraseDups)

variable {c : Canvas} {depth : Nat} {wanted : List FetchRequest}

theorem asked_fresh (config : Config) : (Canvas.fresh config).Asked 0 [] := rfl

theorem stable_asked (depth : Nat) (wanted : List FetchRequest) :
    Stable (fun _ => True) fun c => c.Asked depth wanted where
  flush {c} h := by
    rcases c.flush_cases with ⟨-, heq⟩ | ⟨-, heq⟩ <;> rw [heq] <;> exact h
  append _ h := h
  change {c} counts h := by
    rcases c.change_cases counts with ⟨-, heq⟩ | ⟨-, heq⟩ <;> rw [heq] <;> exact h
  push _ _ h := h
  frame _ _ _ _ h := h

theorem Asked.request (h : c.Asked depth wanted) (scene : Scene) (r : FetchRequest) :
    (c.request scene r).Asked depth (wanted ++ if scene.store.isSome then [r] else []) := by
  obtain ⟨hdepth, hrequested⟩ := Prod.mk.inj h
  have hmem : c.requested.contains r = true ↔ r ∈ wanted := by
    rw [List.contains_iff_mem, hrequested, List.mem_eraseDups]
  unfold Canvas.request
  cases hs : scene.store.isSome with
  | false => simpa [hs] using h
  | true =>
    rw [if_pos rfl, Asked, eraseDups_concat]
    by_cases hr : r ∈ wanted
    · rw [if_pos hr, hmem.2 hr]
      exact h
    · rw [if_neg hr, Bool.eq_false_iff.2 (mt hmem.1 hr)]
      exact Prod.ext hdepth (congrArg (· ++ [r]) hrequested)

end Canvas

/-- What is wanted for a mention: nothing if there is no store. -/
def Scene.wanted (scene : Scene) (known : Option User) (target : Reference) : List FetchRequest :=
  (scene.store.bind fun store => store.missing? scene.message known target).toList

theorem Scene.user?_eq_none {scene : Scene} {store : Store} (hs : scene.store = some store)
    (id : UserId) : scene.user? id = none ↔
      (∀ user ∈ (scene.message.map (·.mentions)).getD [], user.id ≠ id) ∧
        (store.user id).isNone = true := by
  unfold Scene.user?
  rw [hs, Option.or_eq_none_iff, Option.bind_some, Option.isNone_iff_eq_none]
  cases scene.message with
  | none => simp
  | some message => simp

theorem Scene.wanted_of_member {scene : Scene} {id : UserId} {member : Member}
    (h : scene.member? id = some member) (known : Option User) :
    scene.wanted known (.user id) = [] := by
  unfold Scene.member? at h
  unfold Scene.wanted
  cases hs : scene.store with
  | none => rfl
  | some store =>
    cases hg : scene.guild with
    | none => simp [hg] at h
    | some guild =>
      rw [Scene.guild] at hg
      have hmember : store.member guild id = some member := by simpa [Scene.guild, hg, hs] using h
      simp [Store.missing?, hg, hmember]

namespace Canvas

variable {c : Canvas} {depth : Nat} {wanted : List FetchRequest}

/-- Asks for the membership of a user, or where there is no guild for the user, if that is not
known. -/
def requestUser (c : Canvas) (scene : Scene) (id : UserId) (user : Option User) : Canvas :=
  match scene.guild, user with
  | some guild, _ => c.request scene (.member guild id)
  | none, none => c.request scene (.user id)
  | none, some _ => c

theorem Asked.requestUser (h : c.Asked depth wanted) {scene : Scene} {id : UserId}
    (hm : scene.member? id = none) (known : Option User) :
    (c.requestUser scene id (known.or (scene.user? id))).Asked depth
      (wanted ++ scene.wanted known (.user id)) := by
  unfold Canvas.requestUser
  unfold Scene.member? at hm
  unfold Scene.wanted
  cases hs : scene.store with
  | none =>
    have hnone (r : FetchRequest) : (c.request scene r).Asked depth wanted := by
      simpa [hs] using h.request scene r
    rw [Option.bind_none, Option.toList_none, List.append_nil]
    split
    · exact hnone _
    · exact hnone _
    · exact h
  | some store =>
    have hsome (r : FetchRequest) : (c.request scene r).Asked depth (wanted ++ [r]) := by
      simpa [hs] using h.request scene r
    rw [Option.bind_some]
    cases hg : scene.guild with
    | some guild =>
      have hmember : store.member guild id = none := by simpa [hg, hs] using hm
      rw [Scene.guild] at hg
      simpa [Store.missing?, hg, hmember] using hsome (.member guild id)
    | none =>
      rw [Scene.guild] at hg
      cases hu : known.or (scene.user? id) with
      | none =>
        obtain ⟨rfl, huser⟩ := Option.or_eq_none_iff.1 hu
        have huser := (Scene.user?_eq_none hs id).1 huser
        simp only [Store.missing?, hg]
        rw [if_pos ⟨rfl, huser⟩]
        exact hsome (.user id)
      | some user =>
        have hfound : ¬(known.isNone = true ∧
            (∀ user ∈ (scene.message.map (·.mentions)).getD [], user.id ≠ id) ∧
              (store.user id).isNone = true) := by
          rintro ⟨hknown, huser⟩
          rw [Option.isNone_iff_eq_none.1 hknown, Option.none_or,
            (Scene.user?_eq_none hs id).2 huser] at hu
          cases hu
        simp only [Store.missing?, hg]
        rw [if_neg hfound, Option.toList_none, List.append_nil]
        exact h

theorem Asked.mentionUser (h : c.Asked depth wanted) (scene : Scene) (id : UserId)
    (known : Option User) :
    (c.mentionUser scene id known).Asked depth (wanted ++ scene.wanted known (.user id)) := by
  unfold Canvas.mentionUser
  cases hm : scene.member? id with
  | some member =>
    rw [Scene.wanted_of_member hm, List.append_nil]
    exact (stable_asked _ _).writeResolved (.all _) h _ _
  | none =>
    -- the request comes first, whether the user is known or not
    have hc := h.requestUser hm known
    unfold Canvas.requestUser at hc
    dsimp only
    cases hu : known.or (scene.user? id) with
    | some user =>
      rw [hu] at hc
      exact (stable_asked _ _).writeResolved (.all _) hc _ _
    | none =>
      rw [hu] at hc
      exact (stable_asked _ _).writeUnresolved (fun _ => trivial) hc _ _

theorem Asked.mention (h : c.Asked depth wanted) (scene : Scene) (target : Reference) :
    (c.mention scene target).Asked depth (wanted ++ scene.wanted none target) := by
  have hrequest (r : FetchRequest) :
      ((c.request scene r).writeUnresolved scene target).Asked depth
        (wanted ++ if scene.store.isSome then [r] else []) :=
    (stable_asked _ _).writeUnresolved (fun _ => trivial) (h.request scene r) _ _
  cases target with
  | user id => exact h.mentionUser scene id none
  | role id =>
    show (c.mentionRole scene id).Asked _ _
    unfold mentionRole Scene.wanted
    cases hg : scene.guild with
    | none =>
      rw [Scene.guild] at hg
      have : (c.writeUnresolved scene (.role id)).Asked depth wanted :=
        (stable_asked _ _).writeUnresolved (fun _ => trivial) h _ _
      cases scene.store <;> simpa [Store.missing?, hg] using this
    | some guild =>
      rw [Scene.guild] at hg
      have hresolved (data : MentionData) :
          (c.writeResolved scene (.role id) data).Asked depth wanted :=
        (stable_asked _ _).writeResolved (.all _) h _ _
      cases hs : scene.store with
      | none => simpa [hs] using hrequest (.role guild id)
      | some store =>
        cases hr : store.role guild id with
        | none => simpa [Store.missing?, hs, hg, hr] using hrequest (.role guild id)
        | some role => simpa [Store.missing?, hg, hr] using hresolved _
  | channel id =>
    show (c.mentionChannel scene id).Asked _ _
    unfold mentionChannel Scene.wanted
    have hresolved (data : MentionData) :
        (c.writeResolved scene (.channel id) data).Asked depth wanted :=
      (stable_asked _ _).writeResolved (.all _) h _ _
    cases hs : scene.store with
    | none => simpa [hs] using hrequest (.channel id)
    | some store =>
      cases hr : store.channel id with
      | none => simpa [Store.missing?, hs, hr] using hrequest (.channel id)
      | some channel => simpa [Store.missing?, hr] using hresolved _

end Canvas

section Tree

variable (scene : Scene)

/-- What is wanted for mentions in the text. -/
def Scene.wantedAll (targets : List Reference) : List FetchRequest :=
  targets.flatMap (scene.wanted none)

theorem Scene.wantedAll_nil : scene.wantedAll [] = [] := rfl

theorem Scene.wantedAll_append (xs ys : List Reference) :
    scene.wantedAll (xs ++ ys) = scene.wantedAll xs ++ scene.wantedAll ys := List.flatMap_append

end Tree

end RichChat
