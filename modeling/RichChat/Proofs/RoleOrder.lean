import Mathlib.Data.Finset.Max
import Mathlib.Data.List.Induction
import RichChat.Model.Store

/-!
# The order of roles

The color of a mention and the list of roles in a tooltip both go by the position of the roles, but
of equally high ones the color takes the last, and the list, which is sorted stably, has the first
in front. So they agree unless roles of different colors share the highest position among those with
a color (`memberColor_eq`).

Both are read off the highest roles with a color (`Role.highest`), whose order sorting does not
change (`highest_memberRoles`).
-/

namespace RichChat

namespace Role

/-- A role with a color than which no role with a color is higher. -/
def IsHighest (roles : List Role) (role : Role) : Prop :=
  role.color ≠ 0 ∧ ∀ other ∈ roles, other.color ≠ 0 → other.position ≤ role.position

instance (roles : List Role) : DecidablePred (IsHighest roles) :=
  fun _ => inferInstanceAs (Decidable (_ ∧ _))

/-- The highest of the roles that have a color, in the order in which they stand. -/
def highest (roles : List Role) : List Role := roles.filter fun role => IsHighest roles role

variable {roles : List Role}

theorem mem_highest {role : Role} : role ∈ highest roles ↔ role ∈ roles ∧ IsHighest roles role := by
  simp [highest]

theorem highest_eq_nil : highest roles = [] ↔ ∀ role ∈ roles, role.color = 0 := by
  constructor
  · intro h role hmem
    by_contra hcolor
    obtain ⟨top, htop, hmax⟩ := Finset.exists_max_image
      (roles.filter fun role => role.color ≠ 0).toFinset (fun role => role.position.toInt)
      ⟨role, by simpa using ⟨hmem, hcolor⟩⟩
    simp only [List.mem_toFinset, List.mem_filter, decide_eq_true_eq] at htop hmax
    have hhighest : top ∈ highest roles := mem_highest.2 ⟨htop.1, htop.2, fun other ho hc =>
      Int32.le_iff_toInt_le.2 (hmax other ⟨ho, hc⟩)⟩
    rw [h] at hhighest
    cases hhighest
  · intro h
    refine List.filter_eq_nil_iff.2 fun role hmem hhighest => ?_
    exact (of_decide_eq_true hhighest).1 (h role hmem)

/-- The same roles in another order have the same highest ones. If these stand in the order that
they had, nothing changes. -/
theorem highest_of_perm {xs ys : List Role} (hperm : ys.Perm xs)
    (hsub : (highest xs).Sublist ys) : highest ys = highest xs := by
  have hys : highest ys = ys.filter fun role => IsHighest xs role := by
    refine List.filter_congr fun role _ => decide_eq_decide.2 ?_
    simp only [IsHighest, hperm.mem_iff]
  have hin : (highest xs).Sublist (highest ys) := by
    have h := hsub.filter fun role => IsHighest xs role
    rw [← hys] at h
    simpa [highest] using h
  refine (hin.eq_of_length ?_).symm
  rw [hys, highest, (hperm.filter _).length_eq]

/-- In a list that goes down, the first role with a color is the first of the highest. -/
theorem head?_highest (h : roles.Pairwise fun a b => b.position ≤ a.position) :
    (highest roles).head? = roles.find? fun role => role.color ≠ 0 := by
  induction roles with
  | nil => rfl
  | cons role roles ih =>
    obtain ⟨hfirst, hrest⟩ := List.pairwise_cons.1 h
    by_cases hcolor : role.color = 0
    · have hskip : highest (role :: roles) = highest roles := by
        have hnot : ¬ IsHighest (role :: roles) role := fun hhighest => hhighest.1 hcolor
        rw [highest, List.filter_cons_of_neg (by simpa using hnot)]
        refine List.filter_congr fun other _ => decide_eq_decide.2 ?_
        simp [IsHighest, hcolor]
      rw [hskip, ih hrest]
      simp [hcolor]
    · have htop : IsHighest (role :: roles) role := by
        refine ⟨hcolor, List.forall_mem_cons.2 ⟨fun _ => Int32.le_refl _, fun other ho _ => ?_⟩⟩
        exact hfirst other ho
      rw [highest, List.filter_cons_of_pos (by simpa using htop)]
      simp [hcolor]

/-- Going through the roles and keeping the best so far, where a role replaces one that is not
higher, leads to the last of the highest. -/
theorem foldl_highest (roles : List Role) :
    (roles.filter fun role => role.color ≠ 0).foldl (fun best role => match best with
      | some b => if b.position ≤ role.position then some role else some b
      | none => some role) none = (highest roles).getLast? := by
  induction roles using List.reverseRecOn with
  | nil => rfl
  | append_singleton roles role ih =>
    have hlast (h : IsHighest (roles ++ [role]) role) :
        (highest (roles ++ [role])).getLast? = some role := by
      simp [highest, h]
    have hsame (hnot : ¬ IsHighest (roles ++ [role]) role)
        (hle : ∀ other ∈ highest roles, role.color ≠ 0 → role.position ≤ other.position) :
        highest (roles ++ [role]) = highest roles := by
      have hfront : (highest (roles ++ [role]))
          = roles.filter fun other => IsHighest (roles ++ [role]) other := by
        simp [highest, hnot]
      rw [hfront]
      refine List.filter_congr fun other ho => decide_eq_decide.2 ⟨fun h => ?_, fun h => ?_⟩
      · exact ⟨h.1, (List.forall_mem_append.1 h.2).1⟩
      · refine ⟨h.1, List.forall_mem_append.2 ⟨h.2, ?_⟩⟩
        simpa using hle other (mem_highest.2 ⟨ho, h⟩)
    by_cases hcolor : role.color = 0
    · have hnot : ¬ IsHighest (roles ++ [role]) role := fun h => h.1 hcolor
      rw [hsame hnot fun _ _ hne => absurd hcolor hne, ← ih]
      simp [hcolor]
    · rw [List.filter_append, List.foldl_append, ih]
      simp only [List.filter_cons, List.filter_nil, hcolor, ne_eq, not_false_eq_true, decide_true,
        if_true, List.foldl_cons, List.foldl_nil]
      cases hbest : (highest roles).getLast? with
      | none =>
        have hnone := highest_eq_nil.1 (List.getLast?_eq_none_iff.1 hbest)
        refine (hlast ⟨hcolor, List.forall_mem_append.2 ⟨fun other ho hc => ?_, ?_⟩⟩).symm
        · exact absurd (hnone other ho) hc
        · simp
      | some best =>
        obtain ⟨hmem, hbestcolor, hmax⟩ := mem_highest.1 (List.mem_of_getLast? hbest)
        dsimp only
        split
        · rename_i hle
          refine (hlast ⟨hcolor, List.forall_mem_append.2 ⟨fun other ho hc => ?_, ?_⟩⟩).symm
          · exact Int32.le_trans (hmax other ho hc) hle
          · simp
        · rename_i hlt
          rw [hsame, hbest]
          · exact fun h => hlt (h.2 best (List.mem_append_left _ hmem) hbestcolor)
          · intro other ho _
            have hother := (mem_highest.1 ho).2.2 best hmem hbestcolor
            exact Int32.le_trans (Int32.le_of_lt (Int32.not_le.1 hlt)) hother

theorem ge_trans (a b c : Role) (hab : decide (b.position ≤ a.position) = true)
    (hbc : decide (c.position ≤ b.position) = true) : decide (c.position ≤ a.position) = true :=
  decide_eq_true (Int32.le_trans (of_decide_eq_true hbc) (of_decide_eq_true hab))

theorem ge_total (a b : Role) :
    (decide (b.position ≤ a.position) || decide (a.position ≤ b.position)) = true := by
  simpa using Int32.le_total b.position a.position

end Role

namespace Store

variable (store : Store) (guild : GuildId) (member : Member)

theorem pairwise_memberRoles :
    (store.memberRoles guild member).Pairwise fun a b => b.position ≤ a.position := by
  have h := List.pairwise_mergeSort Role.ge_trans Role.ge_total (store.knownRoles guild member)
  exact h.imp fun h => of_decide_eq_true h

theorem highest_memberRoles :
    Role.highest (store.memberRoles guild member)
      = Role.highest (store.knownRoles guild member) := by
  refine Role.highest_of_perm (List.mergeSort_perm _ _) ?_
  refine List.sublist_mergeSort Role.ge_trans Role.ge_total ?_ List.filter_sublist
  -- Two of the highest roles are equally high.
  refine List.pairwise_of_forall_mem_list fun a ha b hb => decide_eq_true ?_
  rw [Role.mem_highest] at ha hb
  exact ha.2.2 b hb.1 hb.2.1

/-- Of the highest of a member's roles that have a color, the color of the member is that of the
last, and the first one with a color in the list of roles is the first. So the member has no color
exactly if the list has no such role, and else they agree if all of the highest have one color. -/
theorem memberColor_eq (store : Store) (guild : GuildId) (member : Member) :
    let roles := store.memberRoles guild member
    store.memberColor guild member = (Role.highest roles).getLast?.map (·.color) ∧
    (roles.find? fun role => role.color ≠ 0) = (Role.highest roles).head? ∧
    (store.memberColor guild member = none ↔ ∀ role ∈ roles, role.color = 0) ∧
    ((∀ a ∈ Role.highest roles, ∀ b ∈ Role.highest roles, a.color = b.color) →
      store.memberColor guild member
        = (roles.find? fun role => role.color ≠ 0).map (·.color)) := by
  intro roles
  have hcolor : store.memberColor guild member
      = (Role.highest roles).getLast?.map (·.color) := by
    rw [highest_memberRoles]
    exact congrArg (Option.map (·.color)) (Role.foldl_highest (store.knownRoles guild member))
  have hfind := (Role.head?_highest (store.pairwise_memberRoles guild member)).symm
  refine ⟨hcolor, hfind, ?_, fun hsame => ?_⟩
  · rw [hcolor, Option.map_eq_none_iff, List.getLast?_eq_none_iff, Role.highest_eq_nil]
  · rw [hcolor, hfind]
    cases hhighest : Role.highest roles with
    | nil => rfl
    | cons first rest =>
      have hlast := List.getLast_mem (l := first :: rest) (List.cons_ne_nil _ _)
      rw [List.getLast?_eq_some_getLast (List.cons_ne_nil _ _), List.head?_cons]
      refine congrArg some (hsame _ ?_ _ ?_)
      · rw [hhighest]; exact hlast
      · rw [hhighest]; exact List.mem_cons_self

/-- Two roles of one color share the highest position, below a role without one. -/
theorem memberColor_shared_top :
    let store := ((({} : Store).insertRole ⟨1⟩ ⟨⟨10⟩, "mod", 0xff0000, 5⟩).insertRole ⟨1⟩
      ⟨⟨11⟩, "admin", 0xff0000, 5⟩).insertRole ⟨1⟩ ⟨⟨12⟩, "plain", 0, 9⟩
    let member : Member := { user := ⟨⟨7⟩, "ferris", none, none, false⟩,
                             roles := [⟨12⟩, ⟨11⟩, ⟨99⟩, ⟨10⟩] }
    (∀ a ∈ Role.highest (store.memberRoles ⟨1⟩ member),
      ∀ b ∈ Role.highest (store.memberRoles ⟨1⟩ member), a.color = b.color) ∧
    store.memberColor ⟨1⟩ member
      = ((store.memberRoles ⟨1⟩ member).find? fun role => role.color ≠ 0).map (·.color) := by
  intro store member
  have hsame : ∀ a ∈ Role.highest (store.memberRoles ⟨1⟩ member),
      ∀ b ∈ Role.highest (store.memberRoles ⟨1⟩ member), a.color = b.color := by
    rw [highest_memberRoles]
    decide +kernel
  exact ⟨hsame, (store.memberColor_eq ⟨1⟩ member).2.2.2 hsame⟩

/-- Of two equally high roles the member has the color of the second, and the first is in front. -/
theorem memberColor_ne_first :
    let store := (({} : Store).insertRole ⟨1⟩ ⟨⟨1⟩, "first", 1, 0⟩).insertRole ⟨1⟩
      ⟨⟨2⟩, "second", 2, 0⟩
    let member : Member := { user := ⟨⟨7⟩, "u", none, none, false⟩, roles := [⟨1⟩, ⟨2⟩] }
    store.memberColor ⟨1⟩ member = some 2 ∧
    ((store.memberRoles ⟨1⟩ member).find? fun role => role.color ≠ 0).map (·.color) = some 1 := by
  intro store member
  rw [← Role.head?_highest (store.pairwise_memberRoles ⟨1⟩ member), highest_memberRoles]
  decide +kernel

end Store

end RichChat
