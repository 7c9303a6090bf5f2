import RichChat.Markdown.Event
import RichChat.Text.Punctuation

/-!
# Delimiter runs

Emphasis is written with runs of `*`, `_` and `~`. Whether a run can open or close depends on its
neighbours. `resolve` pairs the runs of a piece of text from left to right: a run that can close is
paired with the nearest run before it that fits, and the runs between the two become text. The
innermost two marks of a pair make strong emphasis, a single one plain emphasis, tildes strike out.
-/

namespace RichChat.Markdown

/-- A part of inline content: events, or a run of delimiters whose meaning is open. -/
inductive Piece
  | events (events : List Event)
  | run (mark : Char) (length : Nat) (opens closes : Bool)

/-- Whether a run of `length` marks can open emphasis, given the characters before and after it.
Stars can open within a word, underscores cannot, and tildes only if there are two. -/
def canOpen (mark : Char) (length : Nat) (before : Char) (after : Option Char) : Bool :=
  match after with
  | none => false
  | some next =>
    !Text.isBlank next
      && ((mark == '*' && !Text.isPunctuation next) || (mark == '~' && 1 < length)
        || (mark == '~' && before == '~' && !Text.isPunctuation next)
        || Text.isBlank before || Text.isPunctuation before)

/-- Whether a run can close emphasis. -/
def canClose (mark : Char) (length : Nat) (before : Char) (after : Option Char) : Bool :=
  !Text.isBlank before
    && match after with
      | none => true
      | some next =>
        ((mark == '*' || (mark == '~' && 1 < length)) && !Text.isPunctuation before)
          || (mark == '~' && before == '~') || Text.isBlank next || Text.isPunctuation next

namespace Delimiter

/-- A run that waits for its other half, with the events after it. -/
structure Opener where
  mark : Char
  /-- How many marks are left. -/
  count : Nat
  /-- How many marks there were. -/
  length : Nat
  /-- Whether the run could close as well. -/
  both : Bool
  inner : List Event := []

/-- Whether a closing run fits an opening one. Of runs that can do both, the lengths must not add up
to a multiple of three unless both are one. -/
def Opener.fits (o : Opener) (mark : Char) (length : Nat) (both : Bool) : Bool :=
  o.mark == mark && (mark != '~' || o.length == length)
    && ((!both && !o.both) || (length + o.length) % 3 != 0 || length % 3 == 0)

def marks (mark : Char) (count : Nat) : Event := .text (List.replicate count mark)

/-- The events of a run that found no other half. -/
def Opener.flat (o : Opener) : List Event := marks o.mark o.count :: o.inner

/-- Events inside the emphasis that a number of marks makes, the innermost two together. -/
def wrap (mark : Char) : Nat → List Event → List Event
  | 0, inner => inner
  | 1, inner =>
    .start (if mark = '~' then .strikethrough else .emphasis) :: inner ++ [.stop]
  | n + 2, inner =>
    let container := if mark = '~' then .strikethrough else .strong (mark == '_')
    wrap mark n (.start container :: inner ++ [.stop])

/-- What has been resolved: the events before all openers, and the openers, the last one first. -/
structure State where
  done : List Event := []
  openers : List Opener := []
  /-- How many of the first openers tildes are no longer paired with. -/
  tildeFloor : Nat := 0

namespace State

def add (s : State) (events : List Event) : State :=
  match s.openers with
  | [] => { s with done := s.done ++ events }
  | o :: os => { s with openers := { o with inner := o.inner ++ events } :: os }

/-- The last of the openers that fits, with the events after it and the openers before it. -/
def pair? (mark : Char) (length : Nat) (both : Bool) :
    List Opener → Option (Opener × List Event × List Opener)
  | [] => none
  | o :: os =>
    if o.fits mark length both then some (o, o.inner, os)
    else (pair? mark length both os).map fun (match', inner, rest) =>
      (match', inner ++ o.flat, rest)

/-- Pairs `count` marks of a closing run as far as possible, and tells how many are left. Each
pairing uses up a mark, so that `fuel` need not be greater than `count`. -/
def close (mark : Char) (length : Nat) (both : Bool) : Nat → Nat → State → Nat × State
  | 0, count, s => (count, s)
  | fuel + 1, count, s =>
    let floor := if mark = '~' then min s.openers.length s.tildeFloor else 0
    match pair? mark length both (s.openers.take (s.openers.length - floor)) with
    | none => (count, if mark = '~' then { s with tildeFloor := s.openers.length } else s)
    | some (o, inner, rest) =>
      let before := rest ++ s.openers.drop (s.openers.length - floor)
      let used := min count o.count
      let wrapped := wrap mark used inner
      let s := { s with openers := before, tildeFloor := min s.tildeFloor before.length }
      let s :=
        if used < o.count then
          { s with openers := { o with count := o.count - used, inner := wrapped } :: before }
        else s.add wrapped
      if used < count then close mark length both fuel (count - used) s else (0, s)

/-- One more part. -/
def step (s : State) : Piece → State
  | .events events => s.add events
  | .run mark length opens closes =>
    let both := opens && closes
    let (count, s) := if closes then close mark length both length length s else (length, s)
    if count = 0 then s
    else if opens then { s with openers := { mark, count, length, both } :: s.openers }
    else s.add [marks mark count]

def finish (s : State) : List Event :=
  s.done ++ (s.openers.reverse.flatMap Opener.flat)

end State

/-- The events of a sequence of parts. -/
def resolve (pieces : List Piece) : List Event := (pieces.foldl State.step {}).finish

end Delimiter

end RichChat.Markdown
