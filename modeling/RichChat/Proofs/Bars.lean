import RichChat.Proofs.Joined

/-!
# Text in which bars are text

`Token.scanPlain` cuts a text into the tokens that it has when bars stand for themselves. Up to
joining, its nodes are those of `Token.scan` with the bars put back as text (`joinedAll_scanPlain`).

`Node.ofEventsWith` folds events as `Node.ofEvents` does, with any way to cut a text into tokens.
With that of messages it is `Node.ofEvents` (`Node.ofEventsWith_scan`).
-/

namespace RichChat

namespace Token

/-- A token at the start of a text in which bars are text. -/
def plain? (cs : List Char) : Option (Token × List Char) :=
  (special? cs).filter fun (token, _) => token ≠ .spoiler

/-- The tokens after the first `skip` characters, where `start` tells a token other than text. -/
def scanWith (start : List Char → Option (Token × List Char)) : Nat → List Char → List Token
  | _, [] => []
  | skip + 1, _ :: cs => scanWith start skip cs
  | 0, c :: cs =>
    match start (c :: cs) with
    | some (token, rest) => token :: scanWith start (cs.length - rest.length) cs
    | none => prepend c (scanWith start 0 cs)

/-- A text cut into its tokens, where bars are text. -/
def scanPlain (cs : List Char) : List Token := scanWith plain? 0 cs

/-- The nodes of a token that is no bars, and bars as text. -/
def nodes (inLink : Bool) : Token → List Node
  | text run => [.text (String.ofList run)]
  | mention target => [.leaf (.mention target)]
  | emoji e => [.leaf (.emoji e)]
  | url address =>
    let s := String.ofList address
    [if inLink then .text s else .leaf (.autolink s)]
  | spoiler => [.text "||"]

theorem scanFrom_eq (skip : Nat) (cs : List Char) :
    scanFrom skip cs = scanWith special? skip cs := by
  fun_induction scanFrom skip cs with
  | case1 => rw [scanWith]
  | case2 skip c cs ih => rw [scanWith, ih]
  | case3 c cs token rest h ih => rw [scanWith, h, ih]
  | case4 c cs h ih => rw [scanWith, h, ih]

theorem spoiler_not_mem_prepend {c : Char} {tokens : List Token} (h : spoiler ∉ tokens) :
    spoiler ∉ prepend c tokens := by
  unfold prepend
  split
  · simpa using h
  · simpa using h

theorem spoiler_not_mem_scanWith {start : List Char → Option (Token × List Char)}
    (h : ∀ cs rest, start cs ≠ some (.spoiler, rest)) (skip : Nat) (cs : List Char) :
    spoiler ∉ scanWith start skip cs := by
  fun_induction scanWith start skip cs with
  | case1 => exact List.not_mem_nil
  | case2 skip c cs ih => exact ih
  | case3 c cs token rest heq ih =>
    have hne : spoiler ≠ token := by
      rintro rfl
      exact h _ _ heq
    simpa [hne] using ih
  | case4 c cs heq ih => exact spoiler_not_mem_prepend ih

theorem spoiler_not_mem_scanPlain (cs : List Char) : spoiler ∉ scanPlain cs := by
  apply spoiler_not_mem_scanWith
  intro cs rest h
  simpa using (Option.filter_eq_some_iff.1 h).2

theorem special?_eq_spoiler {cs rest : List Char} (h : special? cs = some (.spoiler, rest)) :
    cs = '|' :: '|' :: rest := by
  unfold special? at h
  split at h
  · split at h <;> simp at h
  · cases h
    rfl
  · simp at h

theorem plain?_bar (cs : List Char) : plain? ('|' :: cs) = none := by
  have hurl : url? ('|' :: cs) = none := by simp [url?, urlScheme?]
  cases cs with
  | nil => simp [plain?, special?, hurl]
  | cons c cs =>
    by_cases hc : c = '|'
    · simp [plain?, special?, hc]
    · simp [plain?, special?, hc, hurl]

theorem plain?_of_ne {cs rest : List Char} {token : Token} (h : special? cs = some (token, rest))
    (hne : token ≠ .spoiler) : plain? cs = some (token, rest) := by
  simp [plain?, h, hne]

end Token

namespace Node

open Token

theorem joinedAll_text_cons (s : String) (nodes : List Node) :
    joinedAll (.text s :: nodes) = (Node.text s).join (joinedAll nodes) := rfl

theorem text_join_text (s t : String) (nodes : List Node) :
    (Node.text s).join ((Node.text t).join nodes) = (Node.text (s ++ t)).join nodes :=
  join_join s t false false [] [] nodes

theorem joinedAll_prepend (inLink : Bool) (c : Char) (tokens : List Token) :
    joinedAll ((prepend c tokens).flatMap (nodes inLink))
      = (Node.text (String.ofList [c])).join (joinedAll (tokens.flatMap (nodes inLink))) := by
  unfold prepend
  split
  · rename_i run tokens
    have hrun : String.ofList (c :: run) = String.ofList [c] ++ String.ofList run := by
      rw [← String.ofList_append, List.singleton_append]
    simp only [List.flatMap_cons, nodes, List.singleton_append, joinedAll_text_cons, text_join_text,
      hrun]
  · rw [List.flatMap_cons, nodes, List.singleton_append, joinedAll_text_cons]

theorem joinedAll_scanWith_plain (inLink : Bool) (skip : Nat) (cs : List Char) :
    joinedAll ((scanWith special? skip cs).flatMap (nodes inLink))
      = joinedAll ((scanWith plain? skip cs).flatMap (nodes inLink)) := by
  induction cs generalizing skip with
  | nil => simp only [scanWith]
  | cons c cs ih =>
    cases skip with
    | succ skip => simpa only [scanWith] using ih skip
    | zero =>
      rcases h : special? (c :: cs) with _ | ⟨token, rest⟩
      · have h' : plain? (c :: cs) = none := by simp [plain?, h]
        simp only [scanWith, h, h', joinedAll_prepend, ih]
      · by_cases hne : token = .spoiler
        · subst hne
          obtain ⟨rfl, rfl⟩ := List.cons.inj (special?_eq_spoiler h)
          -- The second of the bars is skipped on one side and is a text of its own on the other.
          have ih := ih 1
          simp only [scanWith] at ih
          have hskip : ('|' :: rest).length - rest.length = 1 := by simp
          simp only [scanWith, h, hskip, plain?_bar, joinedAll_prepend, List.flatMap_cons, nodes,
            List.singleton_append, joinedAll_text_cons, ih, text_join_text]
          rfl
        · simp only [scanWith, h, plain?_of_ne h hne, List.flatMap_cons]
          exact joinedAll_append_congr rfl (ih _)

/-- The tokens of a text have the nodes that they have where bars are text, up to joining. -/
theorem joinedAll_scanPlain (inLink : Bool) (cs : List Char) :
    joinedAll ((scan cs).flatMap (nodes inLink))
      = joinedAll ((scanPlain cs).flatMap (nodes inLink)) := by
  rw [scan, scanFrom_eq, scanPlain, joinedAll_scanWith_plain]

theorem baredAll_nodes (inLink : Bool) (token : Token) :
    baredAll (token.nodes inLink) = token.nodes inLink := by
  cases token with
  | url address => cases inLink <;> rfl
  | _ => rfl

end Node

namespace Builder

/-- Cuts the pending text into tokens by `scan`. -/
def flushWith (scan : List Char → List Token) (b : Builder) : Builder :=
  (scan b.pending).foldl (token b.inLink) { b with pending := [] }

/-- Whether an event leaves the pending text as it is or adds to it. -/
def keepsPending (b : Builder) : Event → Bool
  | .text _ | .html _ => true
  | _ => b.code.isSome

/-- One more event, before which the pending text is cut into tokens by `scan` if it has to be. -/
def eventWith (scan : List Char → List Token) (b : Builder) (e : Event) : Builder :=
  if b.keepsPending e then b.event e else (b.flushWith scan).event e

theorem foldl_token_pending (inLink : Bool) (tokens : List Token) (b : Builder) :
    (tokens.foldl (token inLink) b).pending = b.pending
      ∧ (tokens.foldl (token inLink) b).code = b.code := by
  induction tokens generalizing b with
  | nil => exact ⟨rfl, rfl⟩
  | cons t tokens ih =>
    have h : (token inLink b t).pending = b.pending ∧ (token inLink b t).code = b.code := by
      cases t with
      | spoiler =>
        simp only [token, toggleSpoiler, close, openFrame]
        split
        · split <;> exact ⟨rfl, rfl⟩
        · exact ⟨rfl, rfl⟩
      | _ => exact ⟨rfl, rfl⟩
    rw [List.foldl_cons, (ih _).1, (ih _).2]
    exact h

@[simp] theorem flushWith_pending (scan : List Char → List Token) (b : Builder) :
    (b.flushWith scan).pending = [] := (foldl_token_pending _ _ _).1

@[simp] theorem flushWith_code (scan : List Char → List Token) (b : Builder) :
    (b.flushWith scan).code = b.code := (foldl_token_pending _ _ _).2

theorem flush_of_pending {b : Builder} (h : b.pending = []) : b.flush = b := by
  obtain ⟨top, below, pending, code⟩ := b
  cases h
  rfl

theorem flush_flush (b : Builder) : b.flush.flush = b.flush :=
  flush_of_pending (flushWith_pending Token.scan b)

theorem eventWith_scan (b : Builder) (e : Event) : b.eventWith Token.scan e = b.event e := by
  unfold eventWith
  split
  · rfl
  · rename_i h
    change b.flush.event e = b.event e
    cases e with
    | text run | html run => exact absurd rfl h
    | _ =>
      have hcode : b.code = none := by simpa [keepsPending] using h
      have hflush : b.flush.code = none := (flushWith_code Token.scan b).trans hcode
      simp only [event, stop, hcode, hflush, flush_flush]

end Builder

/-- The tree of a sequence of events whose texts are cut into tokens by `scan`. -/
def Node.ofEventsWith (scan : List Char → List Token) (events : List Event) : Node :=
  ((events.foldl (Builder.eventWith scan) {}).flushWith scan).finish

theorem Node.ofEventsWith_scan (events : List Event) :
    ofEventsWith Token.scan events = ofEvents events := by
  have hstep : Builder.eventWith Token.scan = Builder.event := by
    funext b e
    exact Builder.eventWith_scan b e
  unfold ofEventsWith ofEvents
  rw [hstep]
  change Builder.finish (Builder.flush _) = _
  rw [Builder.finish, Builder.flush_flush, Builder.finish]

end RichChat
