import RichChat.Render.Mention

/-!
# Mentions on two canvases

Two canvases may be related in a way that writing, making segments, placing anchors and asking the
store keep (`Canvas.InStep`). Then a mention keeps it, whatever is known of whom it mentions
(`InStep.mention`). A range of the one canvas is that of the other one, moved.
-/

namespace RichChat

namespace Canvas

/-- What is drawn on both canvases leaves them related. -/
structure InStep (move : Nat × Nat → Nat × Nat) (R : Canvas → Canvas → Prop) : Prop where
  write : ∀ {c d} text, R c d →
    (d.write text).1 = move (c.write text).1 ∧ R (c.put text) (d.put text)
  emit : ∀ {c d} range kind, R c d → R (c.emit range kind) (d.emit (move range) kind)
  anchor : ∀ {c d} kind, R c d → R (c.anchor kind) (d.anchor kind)
  request : ∀ {c d} scene r, R c d → R (c.request scene r) (d.request scene r)

namespace InStep

variable {move : Nat × Nat → Nat × Nat} {R : Canvas → Canvas → Prop} {c d : Canvas}

theorem writeResolved (hR : InStep move R) (h : R c d) (scene : Scene) (target : Reference)
    (data : MentionData) :
    R (c.writeResolved scene target data) (d.writeResolved scene target data) := by
  have havatar : R (c.mentionAvatar scene.config target data)
      (d.mentionAvatar scene.config target data) := by
    unfold mentionAvatar
    split
    · split
      · exact hR.anchor _ h
      · exact h
    · exact h
  obtain ⟨hrange, hput⟩ := hR.write (target.sigil ++ data.name) havatar
  unfold Canvas.writeResolved
  dsimp only
  rw [hrange]
  split
  · exact hR.emit _ _ (hR.emit _ _ hput)
  · exact hR.emit _ _ hput

theorem writeUnresolved (hR : InStep move R) (h : R c d) (scene : Scene) (target : Reference) :
    R (c.writeUnresolved scene target) (d.writeUnresolved scene target) := by
  obtain ⟨hrange, hput⟩ := hR.write target.sourceForm h
  unfold Canvas.writeUnresolved
  dsimp only
  rw [hrange]
  exact hR.emit _ _ hput

theorem mentionUser (hR : InStep move R) (h : R c d) (scene : Scene) (id : UserId)
    (known : Option User) : R (c.mentionUser scene id known) (d.mentionUser scene id known) := by
  unfold Canvas.mentionUser
  dsimp only
  split
  · exact hR.writeResolved h scene _ _
  · cases known.or (scene.user? id) with
    | some user =>
      cases scene.guild with
      | some guild => exact hR.writeResolved (hR.request scene _ h) scene _ _
      | none => exact hR.writeResolved h scene _ _
    | none =>
      cases scene.guild with
      | some guild => exact hR.writeUnresolved (hR.request scene _ h) scene _
      | none => exact hR.writeUnresolved (hR.request scene _ h) scene _

theorem mention (hR : InStep move R) (h : R c d) (scene : Scene) (target : Reference) :
    R (c.mention scene target) (d.mention scene target) := by
  cases target with
  | user id => exact hR.mentionUser h scene id none
  | role id =>
    show R (c.mentionRole scene id) (d.mentionRole scene id)
    unfold mentionRole
    split
    · exact hR.writeUnresolved h scene _
    · split
      · exact hR.writeResolved h scene _ _
      · exact hR.writeUnresolved (hR.request scene _ h) scene _
  | channel id =>
    show R (c.mentionChannel scene id) (d.mentionChannel scene id)
    unfold mentionChannel
    split
    · exact hR.writeResolved h scene _ _
    · exact hR.writeUnresolved (hR.request scene _ h) scene _

end InStep

end Canvas

end RichChat
