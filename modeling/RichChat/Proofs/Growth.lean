import Mathlib.Data.List.Basic
import Mathlib.Tactic.Common
import RichChat.Proofs.Offset
import RichChat.Render.Buffer

/-!
# How a buffer grows

Whatever is done with a buffer adds to its text and leaves the marker alone. Writing a piece of a
text adds the marker, if it is due, and the piece (`write_piece`).
-/

namespace RichChat

namespace Text

/-- A piece of a text is not cut any further. -/
theorem pieces_of_mem {p cs : List Char} (h : p ∈ pieces cs) : pieces p = [p] := by
  induction cs generalizing p with
  | nil => simp [pieces] at h
  | cons c cs ih =>
    rw [pieces] at h
    split at h
    · rcases List.mem_cons.1 h with rfl | h
      · rfl
      · exact ih h
    · rename_i hc
      split at h
      · rw [List.mem_singleton] at h
        subst h
        simp [pieces, hc]
      · rename_i q qs hq
        rcases List.mem_cons.1 h with rfl | h
        · have := ih (p := q) (by simp [hq])
          rw [pieces, if_neg hc, this]
        · exact ih (by simp [hq, h])

/-- A piece goes on to the end of its line and no further. -/
theorem newline_not_mem_dropLast {cs p : List Char} (h : p ∈ pieces cs) : '\n' ∉ p.dropLast := by
  induction cs generalizing p with
  | nil => cases h
  | cons c cs ih =>
    rw [pieces] at h
    split at h
    · rcases List.mem_cons.1 h with rfl | h
      · simp
      · exact ih h
    · rename_i hc
      split at h
      · obtain rfl := List.mem_singleton.1 h
        simp
      · rename_i q qs hq
        rw [hq] at ih
        rcases List.mem_cons.1 h with rfl | h
        · have hne := ne_nil_of_mem_pieces (hq ▸ List.mem_cons_self : q ∈ pieces cs)
          rw [List.dropLast_cons_of_ne_nil hne]
          exact List.not_mem_cons_of_ne_of_not_mem (Ne.symm hc) (ih List.mem_cons_self)
        · exact ih (List.mem_cons_of_mem q h)

end Text

namespace Buffer

variable (b : Buffer)

@[simp] theorem append_text (cs : List Char) : (b.append cs).text = b.text ++ cs := rfl

@[simp] theorem append_marker (cs : List Char) : (b.append cs).marker = b.marker := rfl

@[simp] theorem append_length (cs : List Char) :
    (b.append cs).length = b.length + Text.size cs := by
  simp [length]

@[simp] theorem append_nil : b.append [] = b := by simp [append]

theorem append_append (cs ds : List Char) : (b.append cs).append ds = b.append (cs ++ ds) := by
  simp [append]

/-- The marker, if it has to come before any other text. -/
def due : List Char := if b.markerDue then b.marker else []

theorem flush_eq_append : b.flush = b.append b.due := by
  unfold flush due
  split
  · rfl
  · simp

@[simp] theorem flush_marker : b.flush.marker = b.marker := by simp [flush_eq_append]

theorem write_newline : b.write ['\n'] = ((b.length, b.length + 1), b.append ['\n']) := by
  have : Text.pieces ['\n'] = [['\n']] := rfl
  simp [write, this, writePiece, Text.size]
  decide

theorem write_piece {p : List Char} (h : Text.pieces p = [p]) (hp : p ≠ ['\n']) :
    b.write p = ((b.flush.length, (b.flush.append p).length), b.flush.append p) := by
  simp [write, h, writePiece, hp]

/-- After a marker that does not end a line, no other one is due. -/
theorem not_markerDue_flush (h : b.marker.getLast? ≠ some '\n') : b.flush.markerDue = false := by
  by_cases hd : b.markerDue
  · have hm : b.marker ≠ [] := by
      intro hm
      simp [markerDue, hm] at hd
    simp only [markerDue, flush_marker, Bool.and_eq_false_iff]
    right
    rw [flush, if_pos hd]
    simp [atLineStart, hm, List.getLast?_append, h]
  · rw [flush, if_neg hd]
    simpa using hd

end Buffer

end RichChat
