import Mathlib.Data.List.Basic
import RichChat.Markdown.Link

/-!
# What definitions leave

The readers of labels, destinations and titles leave an end of the content that they are given. So a
paragraph is the end of its content after the definitions at its start
(`Content.suffix_splitDefinitions`).
-/

namespace RichChat.Markdown

variable {atoms rest : List Atom} {a : Atom}

theorem suffix_cons_of (h : rest <:+ atoms) : rest <:+ a :: atoms :=
  h.trans (List.suffix_cons a atoms)

theorem exists_of_map {α β γ : Type} {x : Option (α × γ)} {f : α × γ → β × γ} {b : β} {c : γ}
    (h : x.map f = some (b, c)) (hf : ∀ p, (f p).2 = p.2) : ∃ a, x = some (a, c) := by
  obtain ⟨⟨a, c'⟩, hx, heq⟩ := Option.map_eq_some_iff.1 h
  obtain rfl : c' = c := (hf (a, c')).symm.trans (congrArg Prod.snd heq)
  exact ⟨a, hx⟩

theorem suffix_pointyDestination? {dest : List Char}
    (h : pointyDestination? atoms = some (dest, rest)) : rest <:+ atoms := by
  fun_induction pointyDestination? atoms generalizing dest with
  | case1 =>
    cases h
    exact List.suffix_cons _ _
  | case3 _ _ _ ih =>
    obtain ⟨_, hfound⟩ := exists_of_map h fun _ => rfl
    exact suffix_cons_of (suffix_cons_of (ih hfound))
  | case4 _ _ _ ih | case5 _ _ _ _ _ ih =>
    obtain ⟨_, hfound⟩ := exists_of_map h fun _ => rfl
    exact suffix_cons_of (ih hfound)
  | case2 | case6 => cases h

theorem suffix_bareDestination? {depth : Nat} {dest : List Char}
    (h : bareDestination? depth atoms = some (dest, rest)) : rest <:+ atoms := by
  fun_induction bareDestination? depth atoms generalizing dest with
  | case1 _ _ _ _ ih =>
    obtain ⟨_, hfound⟩ := exists_of_map h fun _ => rfl
    exact suffix_cons_of (suffix_cons_of (ih hfound))
  | case2 _ _ _ _ ih | case4 _ _ _ ih | case6 _ _ ih | case9 _ _ _ _ _ _ _ _ ih =>
    obtain ⟨_, hfound⟩ := exists_of_map h fun _ => rfl
    exact suffix_cons_of (ih hfound)
  | case5 | case7 | case10 =>
    cases h
    exact List.suffix_rfl
  | case3 | case8 | case11 => cases h

theorem suffix_destination? {dest : List Char} (h : destination? atoms = some (dest, rest)) :
    rest <:+ atoms := by
  unfold destination? at h
  split at h
  · exact suffix_cons_of (suffix_pointyDestination? h)
  · exact suffix_bareDestination? h

theorem suffix_titleEnd? {opening closing : Char}
    (h : titleEnd? opening closing atoms = some rest) : rest <:+ atoms := by
  fun_induction titleEnd? opening closing atoms with
  | case1 _ _ _ ih => exact suffix_cons_of (suffix_cons_of (ih h))
  | case2 _ _ _ ih | case5 _ _ _ _ _ ih | case7 _ _ _ _ _ ih => exact suffix_cons_of (ih h)
  | case3 =>
    cases h
    exact List.suffix_cons _ _
  | case4 | case6 | case8 => cases h

theorem suffix_title? (h : title? atoms = some rest) : rest <:+ atoms := by
  unfold title? at h
  split at h
  · exact suffix_cons_of (suffix_titleEnd? h)
  · exact suffix_cons_of (suffix_titleEnd? h)
  · exact suffix_cons_of (suffix_titleEnd? h)
  · cases h

theorem suffix_labelChars? {room : Nat} {label : List Char}
    (h : labelChars? room atoms = some (label, rest)) : rest <:+ atoms := by
  fun_induction labelChars? room atoms generalizing label with
  | case2 | case4 =>
    cases h
    exact List.suffix_cons _ _
  | case6 _ _ _ _ ih =>
    obtain ⟨_, hfound⟩ := exists_of_map h fun _ => rfl
    exact suffix_cons_of (suffix_cons_of (ih hfound))
  | case7 _ _ _ _ ih =>
    obtain ⟨_, hfound⟩ := exists_of_map h fun _ => rfl
    exact suffix_cons_of (ih hfound)
  | case8 _ _ _ _ _ hblank =>
    rw [if_pos hblank] at h
    cases h
  | case9 _ _ _ _ _ hblank _ ih =>
    rw [if_neg hblank] at h
    obtain ⟨_, hfound⟩ := exists_of_map h fun _ => rfl
    exact suffix_cons_of (ih hfound)
  | case1 | case3 | case5 => cases h

theorem suffix_label? {label : List Char} (h : label? atoms = some (label, rest)) :
    rest <:+ atoms := by
  unfold label? at h
  split at h
  · obtain ⟨⟨cs, after⟩, hcs, h⟩ := Option.bind_eq_some_iff.1 h
    dsimp only at h
    split at h
    · cases h
    · cases h
      exact suffix_cons_of (suffix_labelChars? hcs)
  · cases h

theorem suffix_skipInlineBlanks (atoms : List Atom) : skipInlineBlanks atoms <:+ atoms :=
  List.dropWhile_suffix _

theorem suffix_skipSpace (atoms : List Atom) : skipSpace atoms <:+ atoms := by
  have hskip := suffix_skipInlineBlanks atoms
  unfold skipSpace
  split
  · rename_i heq
    rw [heq] at hskip
    exact (suffix_skipInlineBlanks _).trans ((List.suffix_cons _ _).trans hskip)
  · exact hskip

theorem suffix_definition? {found : List Char × List Char}
    (h : definition? atoms = some (found, rest)) : rest <:+ atoms := by
  unfold definition? at h
  obtain ⟨⟨label, after⟩, hlabel, h⟩ := Option.bind_eq_some_iff.1 h
  dsimp only at h
  split at h
  · obtain ⟨⟨dest, last⟩, hdest, h⟩ := Option.bind_eq_some_iff.1 h
    dsimp only at h
    have hlast : last <:+ atoms := (suffix_destination? hdest).trans
      ((suffix_skipSpace _).trans ((List.suffix_cons _ _).trans (suffix_label? hlabel)))
    split at h
    · cases h
    · split at h
      · rename_i after hafter
        cases h
        split at hafter
        · cases hafter
        · obtain ⟨htitle, -⟩ := Option.filter_eq_some_iff.1 hafter
          exact (suffix_title? htitle).trans ((suffix_skipSpace _).trans hlast)
      · split at h
        · cases h
          exact hlast
        · cases h
  · cases h

namespace Content

theorem suffix_splitDefinitions (content : Content) :
    content.splitDefinitions.2.atoms <:+ content.atoms := by
  have hfuel (fuel : Nat) (content : Content) :
      (splitDefinitionsWith fuel content).2.atoms <:+ content.atoms := by
    induction fuel generalizing content with
    | zero => exact List.suffix_rfl
    | succ fuel ih =>
      rw [splitDefinitionsWith]
      split
      · exact List.suffix_rfl
      · rename_i found after hfound
        have hskip := (suffix_skipInlineBlanks after).trans (suffix_definition? hfound)
        refine (ih _).trans ?_
        split
        · exact List.nil_suffix
        · rename_i heq
          rw [heq] at hskip
          exact (List.suffix_cons _ _).trans hskip
  exact hfuel _ content

end Content
end RichChat.Markdown
