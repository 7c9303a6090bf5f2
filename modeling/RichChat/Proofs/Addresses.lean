import RichChat.Proofs.Everywhere

/-!
# Addresses of parsed trees

A bare address has a scheme, so the tree of a source has no empty one, at any depth
(`addressed_ofSource`), and neither have the inline elements that are taken out of it.
-/

namespace RichChat

namespace Token

theorem ne_nil_of_url? {cs address rest : List Char} (h : url? cs = some (address, rest)) :
    address ≠ [] := by
  unfold url? at h
  simp only [Option.bind_eq_bind, Option.pure_def, Option.bind_eq_some_iff] at h
  obtain ⟨⟨scheme, afterScheme⟩, hscheme, ⟨run, afterRun⟩, -, heq⟩ := h
  have hne : scheme ≠ [] := by
    unfold urlScheme? at hscheme
    split at hscheme
    · cases hscheme
      decide
    · cases hscheme
      decide
    · cases hscheme
  simp only [Option.some.injEq, Prod.mk.injEq] at heq
  rw [← heq.1]
  simp [hne]

theorem ne_nil_of_special? {cs address rest : List Char}
    (h : special? cs = some (.url address, rest)) : address ≠ [] := by
  unfold special? at h
  split at h
  · split at h
    · cases h
    · simp at h
  · cases h
  · simp only [Option.map_eq_some_iff, Prod.exists, Prod.mk.injEq, url.injEq] at h
    obtain ⟨a, r, hurl, rfl, rfl⟩ := h
    exact ne_nil_of_url? hurl

/-- An address in a text is not empty. -/
theorem ne_nil_of_mem_scanFrom {address cs : List Char} {skip : Nat}
    (h : .url address ∈ scanFrom skip cs) : address ≠ [] := by
  induction cs generalizing skip with
  | nil => cases skip <;> simp [scanFrom] at h
  | cons c cs ih =>
    cases skip with
    | succ skip =>
      rw [scanFrom] at h
      exact ih h
    | zero =>
      rw [scanFrom] at h
      split at h
      · rename_i token rest hspecial
        rcases List.mem_cons.1 h with rfl | h
        · exact ne_nil_of_special? hspecial
        · exact ih h
      · unfold prepend at h
        split at h
        · rename_i run tokens htokens
          have hmem : .url address ∈ scanFrom 0 cs := by
            rw [htokens]
            simpa using h
          exact ih hmem
        · exact ih (by simpa using h)

end Token

namespace Node

theorem addressed_mk {kind : NodeKind} {children : List Node} :
    (mk kind children).Addressed ↔ kind ≠ .autolink "" ∧ ∀ n ∈ children, n.Addressed :=
  @everywhere_mk (· ≠ .autolink "") kind children

theorem addressed_leaf {kind : NodeKind} (h : kind ≠ .autolink "") : (leaf kind).Addressed :=
  @everywhere_leaf (· ≠ .autolink "") kind h

theorem addressed_text (s : String) : (text s).Addressed :=
  addressed_leaf (by simp [NodeKind.plain])

end Node

namespace Builder

theorem addressed_nodes {link : Bool} {pending : List Char} {t : Token}
    (ht : t ∈ Token.scan pending) : ∀ n ∈ t.nodes link, n.Addressed := by
  cases t with
  | url address =>
    have hne : address ≠ [] := Token.ne_nil_of_mem_scanFrom ht
    cases link with
    | true => simpa [Token.nodes] using Node.addressed_text _
    | false =>
      have haddress : NodeKind.autolink (String.ofList address) ≠ .autolink "" := by simpa using hne
      simpa [Token.nodes] using Node.addressed_leaf haddress
  | text run | spoiler => simpa [Token.nodes] using Node.addressed_text _
  | mention target =>
    have hleaf : (Node.leaf (.mention target)).Addressed := Node.addressed_leaf (by simp)
    simpa [Token.nodes] using hleaf
  | emoji e =>
    have hleaf : (Node.leaf (.emoji e)).Addressed := Node.addressed_leaf (by simp)
    simpa [Token.nodes] using hleaf

theorem spread_addressed :
    Rules.Spread { good := fun _ => Node.Addressed } (· ≠ .autolink "") where
  good _ _ h := h
  tokens _ _ _ _ ht := addressed_nodes ht
  breaks _ _ _ := by simp
  containers c := by
    cases c with
    | strong underscores => cases underscores <;> simp [Container.kind]
    | _ => simp [Container.kind]
  document := by simp
  spoiler := by simp
  bars := by simp [NodeKind.plain]

end Builder

namespace Node

theorem addressed_ofSource (source : String) : (ofSource source).Addressed := by
  refine Builder.everywhere_ofEvents Builder.spread_addressed fun e _ => ?_
  cases e with
  | text run | html run => exact fun _ _ => trivial
  | code text => exact fun _ => addressed_mk.2 ⟨by simp, by simpa using addressed_text text⟩
  | rule => exact fun _ => addressed_leaf (by simp)
  | stopCode => exact fun _ _ _ _ => addressed_leaf (by simp)
  | _ => trivial

theorem addressed_inlines (node : Node) (h : node.Addressed) : ∀ n ∈ node.inlines, n.Addressed :=
  @everywhere_inlines (· ≠ .autolink "") (by simp [NodeKind.plain]) node h

end Node

end RichChat
