import RichChat.Proofs.InlineEvents

/-!
# Runs of underscores

`Underscores.runs` cuts the runs of underscores out of a text and tells of each whether it can open
or close emphasis there. A text whose parts are these runs and plain text stays as it is if no run
pairs with a later one (`Pieces.spell_resolve`). Otherwise a span starts in what comes of it
(`Pieces.exists_start_resolve`).

Both come of one invariant over the parts (`State.Resolved`): up to the first pair the openers are
the runs that can open, and from there on a span stays in the events.
-/

namespace RichChat

/-- Events that are texts, and the text that they make up. -/
def Event.Spell (events : List Event) (cs : List Char) : Prop :=
  ∃ texts : List (List Char), events = texts.map .text ∧ texts.flatten = cs

theorem Event.Spell.append {xs ys : List Event} {cs ds : List Char} (hx : Spell xs cs)
    (hy : Spell ys ds) : Spell (xs ++ ys) (cs ++ ds) := by
  obtain ⟨texts, rfl, rfl⟩ := hx
  obtain ⟨texts', rfl, rfl⟩ := hy
  exact ⟨texts ++ texts', by simp, by simp⟩

theorem Event.spell_text (cs : List Char) : Spell [.text cs] cs := ⟨[cs], rfl, by simp⟩

namespace Markdown

/-- A run of underscores, and whether it can open or close emphasis in its place. -/
structure Underscores where
  length : Nat
  opens : Bool
  closes : Bool

namespace Underscores

/-- A run between two characters, or at the end. -/
def between (before : Char) (length : Nat) (after : Option Char) : Underscores :=
  ⟨length, canOpen '_' length before after, canClose '_' length before after⟩

/-- The runs in a text that has some underscores and, in front of these, a character before it. -/
def runs : Char → Nat → List Char → List Underscores
  | before, count, [] => if count = 0 then [] else [between before count none]
  | before, count, c :: cs =>
    if c = '_' then runs before (count + 1) cs
    else (if count = 0 then [] else [between before count (some c)]) ++ runs c 0 cs

/-- The opener that a run is while it waits for its other half. -/
def opener (u : Underscores) : Delimiter.Opener :=
  { mark := '_', count := u.length, length := u.length, both := u.opens && u.closes }

/-- Whether a run and a later one make emphasis, unless a run between them does with one of them. -/
def pairs (a b : Underscores) : Bool :=
  a.opens && b.closes && a.opener.fits '_' b.length (b.opens && b.closes)

/-- No run pairs with a later one. -/
def Unpaired (us : List Underscores) : Prop := us.Pairwise fun a b => a.pairs b = false

instance (us : List Underscores) : Decidable (Unpaired us) :=
  inferInstanceAs (Decidable (us.Pairwise _))

section Runs

variable {before : Char} {cs : List Char}

theorem runs_append {pre : List Char} (h : '_' ∉ pre) (cs : List Char) :
    runs before 0 (pre ++ cs) = runs (pre.getLast?.getD before) 0 cs := by
  induction pre generalizing before with
  | nil => rfl
  | cons c pre ih =>
    obtain ⟨hc, hpre⟩ := List.ne_and_not_mem_of_not_mem_cons h
    rw [List.cons_append, runs, if_neg (Ne.symm hc), if_pos rfl, List.nil_append, ih hpre]
    cases pre <;> rfl

theorem runs_eq_nil (h : '_' ∉ cs) : runs before 0 cs = [] := by
  have := @runs_append before cs h []
  rwa [List.append_nil] at this

theorem runs_replicate (count n : Nat) (cs : List Char) :
    runs before count (List.replicate n '_' ++ cs) = runs before (count + n) cs := by
  induction n generalizing count with
  | zero => rfl
  | succ n ih =>
    rw [List.replicate_succ, List.cons_append, runs, if_pos rfl, ih, Nat.add_right_comm,
      Nat.add_assoc]

theorem runs_of_pos {count : Nat} (hcount : 0 < count) (h : cs.head? ≠ some '_') :
    runs before count cs = between before count cs.head? :: runs '_' 0 cs := by
  cases cs with
  | nil => rw [runs, if_neg (Nat.ne_of_gt hcount)]; rfl
  | cons c cs =>
    have hc : c ≠ '_' := fun heq => h (congrArg some heq)
    rw [runs, if_neg hc, if_neg (Nat.ne_of_gt hcount), runs, if_neg hc]
    rfl

/-- What follows a character other than an underscore does not matter to the runs before it. -/
theorem runs_append_cons {c : Char} (hc : c ≠ '_') (count : Nat) (xs ys : List Char) :
    runs before count (xs ++ c :: ys) = runs before count (xs ++ [c]) ++ runs c 0 ys := by
  induction xs generalizing before count with
  | nil => simp [runs, hc]
  | cons x xs ih =>
    rw [List.cons_append, List.cons_append, runs, runs]
    split
    · exact ih _
    · rw [ih, List.append_assoc]

end Runs

theorem unpaired_append_singleton {us : List Underscores} {u : Underscores} :
    Unpaired (us ++ [u]) ↔ Unpaired us ∧ ∀ a ∈ us, a.pairs u = false := by
  simp [Unpaired, List.pairwise_append]

theorem Unpaired.of_append {us vs : List Underscores} (h : Unpaired (us ++ vs)) : Unpaired us :=
  (List.pairwise_append.1 h).1

theorem closes_of_pairs {a u : Underscores} (h : a.pairs u = true) : u.closes = true := by
  simp only [pairs, Bool.and_eq_true] at h
  exact h.1.2

end Underscores

/-- Pieces that make up a text with some runs of underscores: plain text, and the runs. -/
inductive Pieces : List Piece → List Char → List Underscores → Prop
  | nil : Pieces [] [] []
  | text {ps cs us} (run : List Char) (h : Pieces ps cs us) :
    Pieces (.events [.text run] :: ps) (run ++ cs) us
  /-- A run that can neither open nor close is text. -/
  | idle {ps cs us} {u : Underscores} (length : 0 < u.length) (opens : u.opens = false)
    (closes : u.closes = false) (h : Pieces ps cs us) :
    Pieces (.events [.text (List.replicate u.length '_')] :: ps)
      (List.replicate u.length '_' ++ cs) (u :: us)
  | run {ps cs us} {u : Underscores} (length : 0 < u.length) (h : Pieces ps cs us) :
    Pieces (.run '_' u.length u.opens u.closes :: ps) (List.replicate u.length '_' ++ cs) (u :: us)

namespace Delimiter

variable {o : Opener} {openers rest : List Opener} {inner : List Event}

theorem subset_wrap (mark : Char) : ∀ (n : Nat) (inner : List Event), inner ⊆ wrap mark n inner
  | 0, _ => List.Subset.refl _
  | 1, inner => by simp [wrap]
  | n + 2, inner => by
    rw [wrap]
    exact List.Subset.trans (by simp) (subset_wrap mark n _)

theorem exists_start_wrap (mark : Char) : ∀ {n : Nat} (inner : List Event), 0 < n →
    ∃ c : Container, c.isSpan = true ∧ .start c ∈ wrap mark n inner
  | 1, _, _ => ⟨_, by split <;> rfl, List.mem_append_left _ List.mem_cons_self⟩
  | n + 2, _, _ => by
    refine ⟨if mark = '~' then .strikethrough else .strong (mark == '_'), by split <;> rfl, ?_⟩
    rw [wrap]
    exact subset_wrap mark n _ (List.mem_append_left _ List.mem_cons_self)

namespace State

variable {s : State} {mark : Char} {length : Nat} {both : Bool}

theorem finish_add (s : State) (events : List Event) :
    (s.add events).finish = s.finish ++ events := by
  unfold State.add
  split
  · rename_i hs
    simp [finish, hs]
  · rename_i hs
    simp [finish, hs, Opener.flat]

theorem finish_open (s : State) (o : Opener) :
    finish { s with openers := o :: s.openers } = s.finish ++ o.flat := by
  simp [finish]

theorem pair?_eq_none (h : pair? mark length both openers = none) :
    ∀ o ∈ openers, o.fits mark length both = false := by
  induction openers with
  | nil => simp
  | cons o os ih =>
    rw [pair?] at h
    split at h
    · cases h
    · rename_i hfits
      exact List.forall_mem_cons.2 ⟨by simpa using hfits, ih (Option.map_eq_none_iff.1 h)⟩

/-- The opener that a run is paired with, and how the events behind it come together. -/
theorem flat_of_pair? (h : pair? mark length both openers = some (o, inner, rest)) :
    (o ∈ openers ∧ o.fits mark length both = true) ∧
      openers.reverse.flatMap Opener.flat
        = rest.reverse.flatMap Opener.flat ++ marks o.mark o.count :: inner := by
  induction openers generalizing inner with
  | nil => cases h
  | cons p ps ih =>
    rw [pair?] at h
    split at h
    · rename_i hfits
      cases h
      exact ⟨⟨List.mem_cons_self, hfits⟩, by simp [Opener.flat]⟩
    · obtain ⟨⟨o', inner', rest'⟩, hfound, heq⟩ := Option.map_eq_some_iff.1 h
      cases heq
      obtain ⟨⟨hmem, hfits⟩, hflat⟩ := ih hfound
      exact ⟨⟨List.mem_cons_of_mem _ hmem, hfits⟩, by simp [hflat]⟩

/-- What a pairing does: the events behind the opener become a span, and those before it are kept. -/
theorem exists_close_of_pair? (h : pair? '_' length both s.openers = some (o, inner, rest))
    (fuel count : Nat) :
    ∃ (s' : State) (front left : List Event),
      s.finish = front ++ marks o.mark o.count :: inner ∧
      s'.finish = front ++ left ++ wrap '_' (min count o.count) inner ∧
      close '_' length both (fuel + 1) count s
        = if min count o.count < count then
            close '_' length both fuel (count - min count o.count) s'
          else (0, s') := by
  have htake : s.openers.take (s.openers.length - 0) = s.openers := by simp
  have hdrop : rest ++ s.openers.drop (s.openers.length - 0) = rest := by simp
  obtain ⟨-, hflat⟩ := flat_of_pair? h
  have hfinish : s.finish = (s.done ++ rest.reverse.flatMap Opener.flat)
      ++ marks o.mark o.count :: inner := by
    rw [finish, hflat, List.append_assoc]
  rw [close]
  simp only [Char.reduceEq, if_false, htake, h, hdrop]
  by_cases hleft : min count o.count < o.count
  · rw [if_pos hleft]
    refine ⟨_, _, [marks o.mark (o.count - min count o.count)], hfinish, ?_, rfl⟩
    simp [finish, Opener.flat]
  · rw [if_neg hleft]
    refine ⟨_, _, [], hfinish, ?_, rfl⟩
    rw [finish_add]
    simp [finish]

theorem close_of_pair?_eq_none (h : pair? '_' length both s.openers = none) (fuel count : Nat) :
    close '_' length both fuel count s = (count, s) := by
  have htake : s.openers.take (s.openers.length - 0) = s.openers := by simp
  cases fuel with
  | zero => rfl
  | succ fuel =>
    rw [close]
    simp only [Char.reduceEq, if_false, htake, h]

variable {c : Container}

/-- A span that has started stays. -/
theorem start_mem_close (fuel count : Nat) (h : .start c ∈ s.finish) :
    .start c ∈ (close '_' length both fuel count s).2.finish := by
  induction fuel generalizing s count with
  | zero => exact h
  | succ fuel ih =>
    cases hpair : pair? '_' length both s.openers with
    | none => rwa [close_of_pair?_eq_none hpair]
    | some found =>
      obtain ⟨o, inner, rest⟩ := found
      obtain ⟨s', front, left, hs, hs', heq⟩ := exists_close_of_pair? hpair fuel count
      have hkept : .start c ∈ s'.finish := by
        rw [hs] at h
        rw [hs', List.append_assoc]
        rcases List.mem_append.1 h with h | h
        · exact List.mem_append_left _ h
        · rcases List.mem_cons.1 h with hmarks | h
          · cases hmarks
          · exact List.mem_append_right _ (List.mem_append_right _ (subset_wrap _ _ _ h))
      rw [heq]
      split
      · exact ih _ hkept
      · exact hkept

/-- A run that fits an opener starts a span. -/
theorem exists_start_close {count : Nat} (hcount : 0 < count)
    (hopeners : ∀ o ∈ s.openers, 0 < o.count)
    (h : ∃ o ∈ s.openers, o.fits '_' length both = true) (fuel : Nat) :
    ∃ c : Container, c.isSpan = true ∧
      .start c ∈ (close '_' length both (fuel + 1) count s).2.finish := by
  cases hpair : pair? '_' length both s.openers with
  | none =>
    obtain ⟨o, ho, hfits⟩ := h
    rw [pair?_eq_none hpair o ho] at hfits
    cases hfits
  | some found =>
    obtain ⟨o, inner, rest⟩ := found
    obtain ⟨⟨ho, -⟩, -⟩ := flat_of_pair? hpair
    obtain ⟨s', front, left, -, hs', heq⟩ := exists_close_of_pair? hpair fuel count
    obtain ⟨c, hc, hstart⟩ := exists_start_wrap '_' (n := min count o.count) inner
      (Nat.lt_min.2 ⟨hcount, hopeners o ho⟩)
    have hkept : .start c ∈ s'.finish := by
      rw [hs']
      exact List.mem_append_right _ hstart
    refine ⟨c, hc, ?_⟩
    rw [heq]
    split
    · exact start_mem_close _ _ hkept
    · exact hkept

/-- Whatever becomes of the rest of a run, a span that its closing has made stays. -/
theorem start_mem_step (u : Underscores)
    (h : .start c ∈ (if u.closes then
      close '_' u.length (u.opens && u.closes) u.length u.length s else (u.length, s)).2.finish) :
    .start c ∈ (s.step (.run '_' u.length u.opens u.closes)).finish := by
  unfold State.step
  dsimp only
  generalize (if u.closes then close '_' u.length (u.opens && u.closes) u.length u.length s
    else (u.length, s)) = closed at h ⊢
  split
  · exact h
  · split
    · rw [finish_open]
      exact List.mem_append_left _ h
    · rw [finish_add]
      exact List.mem_append_left _ h

/-- The openers are the runs that can open, with whatever stands behind each. -/
structure Waits (us : List Underscores) (s : State) : Prop where
  openers : s.openers.map (fun o => { o with inner := [] })
    = ((us.filter (·.opens)).map Underscores.opener).reverse
  length : ∀ u ∈ us, 0 < u.length

namespace Waits

variable {us : List Underscores} {u : Underscores}

theorem add (h : s.Waits us) (events : List Event) : (s.add events).Waits us := by
  refine ⟨?_, h.length⟩
  rw [← h.openers]
  unfold State.add
  split
  · rfl
  · rename_i hs
    rw [hs]
    rfl

theorem shut (h : s.Waits us) (length : 0 < u.length) (opens : u.opens = false) :
    s.Waits (us ++ [u]) :=
  ⟨by simpa [opens] using h.openers,
    List.forall_mem_append.2 ⟨h.length, List.forall_mem_singleton.2 length⟩⟩

theorem «open» (h : s.Waits us) (length : 0 < u.length) (opens : u.opens = true) :
    Waits (us ++ [u]) { s with openers := u.opener :: s.openers } := by
  refine ⟨?_, List.forall_mem_append.2 ⟨h.length, List.forall_mem_singleton.2 length⟩⟩
  rw [List.map_cons, h.openers]
  simp [opens, Underscores.opener]

theorem count_pos (h : s.Waits us) : ∀ o ∈ s.openers, 0 < o.count := by
  intro o ho
  have hmem := List.mem_map_of_mem (f := fun o : Opener => { o with inner := [] }) ho
  rw [h.openers] at hmem
  obtain ⟨a, ha, heq⟩ := List.mem_map.1 (List.mem_reverse.1 hmem)
  have hcount : a.length = o.count := congrArg Opener.count heq
  exact hcount ▸ h.length a (List.mem_filter.1 ha).1

/-- A run fits an opener exactly if it pairs with a run before it. -/
theorem exists_fits_iff (h : s.Waits us) (closes : u.closes = true) :
    (∃ o ∈ s.openers, o.fits '_' u.length (u.opens && u.closes) = true)
      ↔ ∃ a ∈ us, a.pairs u = true := by
  have hbare : (∃ o ∈ s.openers, o.fits '_' u.length (u.opens && u.closes) = true)
      ↔ ∃ o ∈ s.openers.map (fun o => { o with inner := [] }),
        o.fits '_' u.length (u.opens && u.closes) = true := by
    simp [Opener.fits]
  rw [hbare, h.openers]
  constructor
  · rintro ⟨_, ho, hfits⟩
    obtain ⟨a, ha, rfl⟩ := List.mem_map.1 (List.mem_reverse.1 ho)
    obtain ⟨hmem, hopens⟩ := List.mem_filter.1 ha
    refine ⟨a, hmem, ?_⟩
    rw [Underscores.pairs, hopens, closes]
    simpa [closes] using hfits
  · rintro ⟨a, ha, hpairs⟩
    simp only [Underscores.pairs, Bool.and_eq_true] at hpairs
    obtain ⟨⟨hopens, -⟩, hfits⟩ := hpairs
    refine ⟨a.opener, List.mem_reverse.2 (List.mem_map_of_mem ?_), hfits⟩
    exact List.mem_filter.2 ⟨ha, hopens⟩

end Waits

open Event (Spell)
open Underscores (Unpaired unpaired_append_singleton)

/-- What has come of a text with some runs of underscores. As long as no two of these pair, it is
the text itself, and the runs that can open wait. -/
inductive Resolved (us : List Underscores) (cs : List Char) (s : State) : Prop
  | flat (unpaired : Unpaired us) (spell : Spell s.finish cs) (waits : s.Waits us)
  | span (paired : ¬ Unpaired us) {c : Container} (isSpan : c.isSpan = true)
    (start : .start c ∈ s.finish)

namespace Resolved

variable {us : List Underscores} {cs : List Char} {u : Underscores}

theorem text (h : s.Resolved us cs) (run : List Char) :
    (s.add [.text run]).Resolved us (cs ++ run) := by
  have hfinish := finish_add s [.text run]
  cases h with
  | flat unpaired spell waits =>
    exact .flat unpaired (hfinish ▸ spell.append (Event.spell_text run)) (waits.add _)
  | span paired isSpan start =>
    exact .span paired isSpan (hfinish ▸ List.mem_append_left _ start)

/-- A run that cannot open and pairs with none changes nothing. -/
theorem shut (h : s.Resolved us cs) (length : 0 < u.length) (opens : u.opens = false)
    (hu : ∀ a ∈ us, a.pairs u = false) : s.Resolved (us ++ [u]) cs := by
  cases h with
  | flat unpaired spell waits =>
    exact .flat (unpaired_append_singleton.2 ⟨unpaired, hu⟩) spell (waits.shut length opens)
  | span paired isSpan start => exact .span (fun hu => paired hu.of_append) isSpan start

theorem run_of_pairs (waits : s.Waits us) (length : 0 < u.length)
    (hpairs : ∃ a ∈ us, a.pairs u = true) :
    (s.step (.run '_' u.length u.opens u.closes)).Resolved (us ++ [u]) cs := by
  have hpaired : ¬ Unpaired (us ++ [u]) := by
    obtain ⟨a, ha, hau⟩ := hpairs
    intro hu
    rw [(unpaired_append_singleton.1 hu).2 a ha] at hau
    cases hau
  have hcloses : u.closes = true := by
    obtain ⟨a, -, hau⟩ := hpairs
    exact Underscores.closes_of_pairs hau
  obtain ⟨fuel, hfuel⟩ := Nat.exists_eq_add_one.2 length
  obtain ⟨c, hc, hstart⟩ := exists_start_close length waits.count_pos
    ((waits.exists_fits_iff hcloses).2 hpairs) fuel
  rw [← hfuel] at hstart
  exact .span hpaired hc (start_mem_step u (by rwa [if_pos hcloses]))

theorem run_of_unpaired (unpaired : Unpaired us) (spell : Spell s.finish cs) (waits : s.Waits us)
    (length : 0 < u.length) (hu : ∀ a ∈ us, a.pairs u = false) :
    (s.step (.run '_' u.length u.opens u.closes)).Resolved (us ++ [u])
      (cs ++ List.replicate u.length '_') := by
  have hclosed : (if u.closes then
      close '_' u.length (u.opens && u.closes) u.length u.length s else (u.length, s))
      = (u.length, s) := by
    split
    · rename_i hcloses
      refine close_of_pair?_eq_none (Option.eq_none_iff_forall_ne_some.2 ?_) _ _
      rintro ⟨o, inner, rest⟩ hfound
      obtain ⟨a, ha, hau⟩ := (waits.exists_fits_iff hcloses).1 ⟨o, (flat_of_pair? hfound).1⟩
      rw [hu a ha] at hau
      cases hau
    · rfl
  unfold State.step
  dsimp only
  rw [hclosed]
  dsimp only
  rw [if_neg (Nat.ne_of_gt length)]
  split
  · rename_i hopens
    refine .flat (unpaired_append_singleton.2 ⟨unpaired, hu⟩) ?_ (waits.open length hopens)
    rw [finish_open]
    exact spell.append (Event.spell_text _)
  · rename_i hopens
    exact ((Resolved.flat unpaired spell waits).text _).shut length (by simpa using hopens) hu

theorem run (h : s.Resolved us cs) (length : 0 < u.length) :
    (s.step (.run '_' u.length u.opens u.closes)).Resolved (us ++ [u])
      (cs ++ List.replicate u.length '_') := by
  cases h with
  | flat unpaired spell waits =>
    by_cases hpairs : ∃ a ∈ us, a.pairs u = true
    · exact run_of_pairs waits length hpairs
    · exact run_of_unpaired unpaired spell waits length (by simpa using hpairs)
  | span paired isSpan start =>
    refine .span (fun hu => paired hu.of_append) isSpan (start_mem_step u ?_)
    split
    · exact start_mem_close _ _ start
    · exact start

end Resolved

end State

end Delimiter

namespace Pieces

open Delimiter (State resolve)

variable {ps : List Piece} {cs : List Char} {us : List Underscores}

theorem resolved (h : Pieces ps cs us) {s : State} {ds : List Char} {vs : List Underscores}
    (hs : s.Resolved vs ds) : (ps.foldl State.step s).Resolved (vs ++ us) (ds ++ cs) := by
  induction h generalizing s ds vs with
  | nil => simpa using hs
  | text run _ ih =>
    rw [← List.append_assoc]
    exact ih (hs.text run)
  | @idle _ _ _ u length opens closes _ ih =>
    have hu : ∀ a ∈ vs, a.pairs u = false := by simp [Underscores.pairs, closes]
    rw [← List.append_assoc, List.append_cons]
    exact ih ((hs.text _).shut length opens hu)
  | run length _ ih =>
    rw [← List.append_assoc, List.append_cons]
    exact ih (hs.run length)

theorem resolved_start (h : Pieces ps cs us) : (ps.foldl State.step {}).Resolved us cs :=
  h.resolved (.flat List.Pairwise.nil ⟨[], rfl, rfl⟩ ⟨rfl, by simp⟩)

/-- Without a pair the text stays as it is. -/
theorem spell_resolve (h : Pieces ps cs us) (unpaired : Underscores.Unpaired us) :
    Event.Spell (resolve ps) cs := by
  cases h.resolved_start with
  | flat _ spell => exact spell
  | span paired => exact absurd unpaired paired

/-- A pair makes emphasis. -/
theorem exists_start_resolve (h : Pieces ps cs us) (paired : ¬ Underscores.Unpaired us) :
    ∃ c : Container, c.isSpan = true ∧ .start c ∈ resolve ps := by
  cases h.resolved_start with
  | flat unpaired => exact absurd unpaired paired
  | span _ isSpan start => exact ⟨_, isSpan, start⟩

end Pieces

end Markdown

end RichChat
