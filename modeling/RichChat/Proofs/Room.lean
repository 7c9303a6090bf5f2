import RichChat.Proofs.Balance
import RichChat.Proofs.Visits

/-!
# Room for the counts

How often an attribute is open is a number without a bound. A number of 32 bits does as well as long
as no count reaches `UInt32.size`, and while a tree is drawn none does if there is room for as many
more as the tree is high (`room_turnsNode`): the handler of a node enters one set of attributes at
most (`Handler.EntersOne`), and what the nodes before it have entered they have left again.
-/

namespace RichChat

/-- Every count can be raised as many times without reaching `UInt32.size`. -/
def Runs.HasRoom (r : Runs) (times : Nat) : Prop := ∀ n ∈ r.counts, n + times < UInt32.size

instance (r : Runs) (times : Nat) : Decidable (r.HasRoom times) :=
  inferInstanceAs (Decidable (∀ n ∈ r.counts, n + times < UInt32.size))

namespace Runs.HasRoom

variable {r s : Runs} {m n : Nat}

theorem mono (h : r.HasRoom n) (hle : m ≤ n) : r.HasRoom m :=
  fun k hk => Nat.lt_of_le_of_lt (Nat.add_le_add_left hle k) (h k hk)

theorem of_counts (h : r.HasRoom n) (heq : s.counts = r.counts) : s.HasRoom n :=
  fun k hk => h k (heq ▸ hk)

theorem opened (h : r.HasRoom (n + 1)) {a : Attribute} (heq : s.counts = a.opened r.counts) :
    s.HasRoom n := by
  intro k hk
  rw [heq] at hk
  obtain ⟨m, hm, hle⟩ := Attribute.exists_of_mem_opened hk
  have := h m hm
  omega

theorem fresh (start : Nat) (h : n < UInt32.size) : ({ start } : Runs).HasRoom n := by
  intro k hk
  obtain rfl := List.eq_of_mem_replicate hk
  rwa [Nat.zero_add]

end Runs.HasRoom

/-- On the way in a handler enters one set of attributes, or none. -/
def Handler.EntersOne (handler : Handler) : Prop :=
  ∀ scene node parent next c, ∃ a : Attribute,
    (handler scene { node, entering := true, parent, next } c).2.runs.counts
      = a.opened c.runs.counts

namespace Handler

theorem EntersOne.of_counts {handler : Handler}
    (h : ∀ scene node parent next c,
      (handler scene { node, entering := true, parent, next } c).2.runs.counts = c.runs.counts) :
    handler.EntersOne :=
  fun scene node parent next c => ⟨.empty, h scene node parent next c⟩

theorem entersOne_heading : EntersOne heading :=
  fun _ _ _ _ c => ⟨.bold, c.enter_counts .bold⟩

theorem entersOne_inline : EntersOne inline := by
  intro scene node parent next c
  unfold inline
  cases node.kind with
  | inline a => exact ⟨a, c.enter_counts a⟩
  | _ => exact ⟨.empty, rfl⟩

theorem entersOne_text : EntersOne text := by
  refine .of_counts fun scene node parent next c => ?_
  unfold text
  cases node.kind with
  | text s soft hard =>
    have hput := Balanced.put c s
    dsimp only
    split
    · exact (hput.trans (.put _ _)).counts
    · split
      · exact (hput.trans (.put _ _)).counts
      · exact hput.counts
  | _ => rfl

theorem entersOne_link : EntersOne link := by
  refine .of_counts fun scene node parent next c => ?_
  unfold link
  cases node.kind with
  | link url => exact c.flush_counts
  | _ => rfl

theorem entersOne_autolink : EntersOne autolink := by
  refine .of_counts fun scene node parent next c => ?_
  unfold autolink
  cases node.kind with
  | autolink url =>
    dsimp only
    split
    · exact (Balanced.put c url).counts
    · exact ((Balanced.put c url).emit _ _).counts
  | _ => rfl

theorem entersOne_codeBlock : EntersOne codeBlock := by
  refine .of_counts fun scene node parent next c => ?_
  unfold codeBlock
  cases node.kind with
  | codeBlock language lines => exact (Balanced.drawCode c language lines).counts
  | _ => rfl

theorem entersOne_list : EntersOne list := by
  refine .of_counts fun scene node parent next c => ?_
  unfold list
  cases node.kind with
  | list start =>
    show (Canvas.openList _ start).runs.counts = _
    split
    · exact (Balanced.startBlock c).counts
    · exact (Balanced.ensureBreak c).counts
  | _ => rfl

theorem entersOne_mention : EntersOne mention := by
  refine .of_counts fun scene node parent next c => ?_
  unfold mention
  cases node.kind with
  | mention target => exact ((Balanced.kept c).mention (.refl c) scene target).counts
  | _ => rfl

theorem entersOne_emoji : EntersOne emoji := by
  refine .of_counts fun scene node parent next c => ?_
  unfold emoji
  cases node.kind with
  | emoji e => exact ((Balanced.kept c).anchor (.refl c) rfl).counts
  | _ => rfl

theorem entersOne_fallback : EntersOne fallback := by
  intro scene node parent next c
  unfold fallback
  cases hk : node.kind with
  | document | paragraph => exact ⟨.empty, rfl⟩
  | text s soft hard => exact entersOne_text scene node parent next c
  | _ =>
    refine ⟨.empty, ?_⟩
    dsimp only
    split
    · exact (Balanced.put c _).counts
    · rfl

theorem entersOne_of_mem_named {handler : Handler} (h : handler ∈ named.map (·.2)) :
    EntersOne handler := by
  simp only [named, List.map_cons, List.map_nil, List.mem_cons, List.not_mem_nil, or_false] at h
  rcases h with rfl | rfl | rfl | rfl | rfl | rfl | rfl | rfl | rfl | rfl | rfl | rfl | rfl | rfl |
    rfl
  · exact entersOne_fallback
  · exact .of_counts fun _ _ _ _ _ => rfl
  · exact .of_counts fun _ _ _ _ _ => rfl
  · exact entersOne_text
  · exact entersOne_heading
  · exact entersOne_inline
  · exact entersOne_link
  · exact entersOne_autolink
  · exact .of_counts fun _ _ _ _ c => (Balanced.startBlock c).counts
  · exact entersOne_codeBlock
  · exact entersOne_list
  · exact .of_counts fun _ _ _ _ c =>
      (((Balanced.ensureBreak c).trans (.nextListMarker _)).trans (.put _ _)).counts
  · exact .of_counts fun _ _ _ _ c => ((Balanced.startBlock c).trans (.put _ "───")).counts
  · exact entersOne_mention
  · exact entersOne_emoji

end Handler

/-- On the way in a visitor enters one set of attributes, or none. -/
def Visitor.EntersOne (visitor : Visitor Canvas) : Prop :=
  ∀ node parent next c, ∃ a : Attribute,
    (visitor { node, entering := true, parent, next } c).2.runs.counts = a.opened c.runs.counts

theorem Registry.IsNamed.entersOne {registry : Registry} (h : registry.IsNamed) (scene : Scene) :
    (registry.visitor scene).EntersOne :=
  fun node => Handler.entersOne_of_mem_named (h.mem_named node.tag) scene node

namespace Node

mutual

/-- How many nodes of a tree are around one another at most. -/
def height : Node → Nat
  | mk _ children => heightAll children + 1

def heightAll : List Node → Nat
  | [] => 0
  | node :: nodes => max node.height (heightAll nodes)

end

end Node

/-- How often a count can be raised from a visit on before it is as it was in front of the node. -/
def Visit.room (visit : Visit) : Nat := if visit.entering then visit.node.height else 0

mutual

/-- From each turn on there is room for what is still to be entered. -/
theorem room_turnsNode {visitor : Visitor Canvas} (hbalanced : visitor.IsBalanced)
    (henters : visitor.EntersOne) (parent next : Option Node) :
    ∀ (node : Node) (c : Canvas), c.runs.HasRoom node.height →
      ∀ turn ∈ turnsNode visitor parent next node c, turn.2.runs.HasRoom turn.1.room
  | .mk kind children, c, h => by
    obtain ⟨a, hin⟩ := henters (.mk kind children) parent next c
    have hinner := h.opened hin
    rw [turnsNode]
    rcases hvisit : visitor { node := .mk kind children, entering := true, parent, next } c
      with ⟨flow, d⟩
    rw [hvisit] at hinner
    cases flow with
    | proceed =>
      have hall := balanced_walkAll hbalanced (.mk kind children) children d
      refine List.forall_mem_append.2 ⟨List.forall_mem_cons.2 ⟨h, ?_⟩,
        List.forall_mem_singleton.2 ?_⟩
      · exact room_turnsAll hbalanced henters _ children d hinner
      · exact Runs.HasRoom.mono (hinner.of_counts hall.counts) (Nat.zero_le _)
    | skipChildren =>
      exact List.forall_mem_cons.2 ⟨h, List.forall_mem_singleton.2 (hinner.mono (Nat.zero_le _))⟩

theorem room_turnsAll {visitor : Visitor Canvas} (hbalanced : visitor.IsBalanced)
    (henters : visitor.EntersOne) (parent : Node) :
    ∀ (nodes : List Node) (c : Canvas), c.runs.HasRoom (Node.heightAll nodes) →
      ∀ turn ∈ turnsAll visitor parent nodes c, turn.2.runs.HasRoom turn.1.room
  | [], _, _ => nofun
  | node :: nodes, c, h => by
    have hnode := balanced_walkNode hbalanced (some parent) nodes.head? node c
    have hfirst : c.runs.HasRoom node.height := h.mono (Nat.le_max_left _ _)
    have hrest : c.runs.HasRoom (Node.heightAll nodes) := h.mono (Nat.le_max_right _ _)
    rw [turnsAll]
    exact List.forall_mem_append.2 ⟨room_turnsNode hbalanced henters _ _ node c hfirst,
      room_turnsAll hbalanced henters parent nodes _ (hrest.of_counts hnode.counts)⟩

end

/-- No count reaches `UInt32.size` while a tree is drawn on a canvas. -/
def Canvas.StaysInRange (c : Canvas) (registry : Registry) (scene : Scene) (node : Node) : Prop :=
  ∀ turn ∈ turnsNode (registry.visitor scene) none none node c, turn.2.runs.HasRoom 0

end RichChat
