import Mathlib.Data.List.Basic
import RichChat.Proofs.Digits
import RichChat.Url.Cdn

/-!
# Addresses of pictures

The address of a picture is a text in front of the name of its file, the name and a text behind it,
the same for every name, whether the base is a URL with a path of segments or no URL at all
(`Cdn.address_eq`). A base such as `localhost:8080` is a URL too, of a scheme `localhost` and with
an opaque path. Nothing is put behind such a path, so all pictures have one address there, and two
emoji have the same address just if they are the same emoji or the base is one of these
(`Cdn.emojiUrl_eq_iff`).
-/

namespace RichChat

namespace Url

/-- A name that can stand in a path as it is. -/
def IsPlain (name : List Char) : Prop := name ≠ [] ∧ ∀ c ∈ name, inSpecialSegmentSet c = false

theorem encode_of_plain {reserved : Char → Bool} {cs : List Char}
    (h : ∀ c ∈ cs, reserved c = false) : encode reserved cs = cs := by
  induction cs with
  | nil => rfl
  | cons c cs ih =>
    rw [List.forall_mem_cons] at h
    rw [encode, List.flatMap_cons, encodeChar, if_neg (by simp [h.1])]
    exact congrArg (c :: ·) (ih h.2)

theorem IsPlain.encode_filter {name : List Char} (h : IsPlain name) (special : Bool) :
    encode (if special then inSpecialSegmentSet else inSegmentSet)
      (name.filter fun c => c ≠ '\t' && c ≠ '\n' && c ≠ '\r') = name := by
  have hne {c : Char} (hc : c ∈ name) {d : Char} (hd : inSpecialSegmentSet d = true) : c ≠ d := by
    rintro rfl
    rw [h.2 c hc] at hd
    cases hd
  rw [List.filter_eq_self.2 fun c hc => by
    simp [hne hc (d := '\t') (by decide), hne hc (d := '\n') (by decide),
      hne hc (d := '\r') (by decide)]]
  refine encode_of_plain fun c hc => ?_
  cases special
  · exact (Bool.or_eq_false_iff.1 (h.2 c hc)).1
  · exact h.2 c hc

/-- What is added to a path is all behind the segments that are kept. -/
theorem addSegments_eq (parts : List (List Char)) :
    ∃ kept, ∀ new, new ≠ [] → addSegments parts new = kept ++ new := by
  let front := if 2 ≤ parts.length ∧ parts.getLast? = some [] then parts.dropLast else parts
  refine ⟨if front = [[]] then [] else front, fun new hnew => ?_⟩
  cases new with
  | nil => exact absurd rfl hnew
  | cons part new => rfl

theorem trimFilePath_append (file : Bool) (front : List (List Char)) :
    ∃ kept, ∀ name, name ≠ [] → trimFilePath file (front ++ [name]) = kept ++ [name] := by
  cases file
  · exact ⟨front, fun _ _ => rfl⟩
  refine ⟨front.dropWhile List.isEmpty, fun name hname => ?_⟩
  have hdrop : (front ++ [name]).dropWhile List.isEmpty
      = front.dropWhile List.isEmpty ++ [name] := by
    induction front with
    | nil => simp [hname]
    | cons part front ih =>
      cases part with
      | nil => simpa using ih
      | cons c cs => simp
  rw [trimFilePath, if_pos rfl, hdrop]
  cases front.dropWhile List.isEmpty <;> rfl

/-- Whether a path gets a dot in front is seen from the segments before the last one. -/
theorem pathChars_append (u : Url) (kept : List (List Char)) :
    ∃ front, ∀ name, pathChars { u with path := .segments (kept ++ [name]) } = front ++ name := by
  let dot : List Char := if u.authority = none ∧ kept.head? = some [] then ['/', '.'] else []
  refine ⟨dot ++ kept.flatMap ('/' :: ·) ++ ['/'], fun name => ?_⟩
  cases hauthority : u.authority <;> rcases kept with _ | ⟨_ | ⟨c, cs⟩, _ | ⟨next, kept⟩⟩ <;>
    simp [pathChars, dot, hauthority]

theorem chars_eq (u : Url) :
    chars u = (u.scheme ++ ':' :: u.authority.elim [] fun a => '/' :: '/' :: a) ++ u.pathChars
      ++ (u.query.elim [] fun q => '?' :: q) ++ u.fragment.elim [] fun f => '#' :: f := by
  unfold chars
  cases u.authority <;> cases u.query <;> cases u.fragment <;> rfl

theorem chars_append (u : Url) (kept : List (List Char)) :
    ∃ front back, ∀ name,
      chars { u with path := .segments (kept ++ [name]) } = front ++ name ++ back := by
  obtain ⟨path, hpath⟩ := pathChars_append u kept
  let start := u.scheme ++ ':' :: u.authority.elim [] fun a => '/' :: '/' :: a
  let query := u.query.elim [] fun q => '?' :: q
  let fragment := u.fragment.elim [] fun f => '#' :: f
  refine ⟨start ++ path, query ++ fragment, fun name => ?_⟩
  rw [chars_eq, hpath]
  show start ++ (path ++ name) ++ query ++ fragment = _
  simp only [List.append_assoc]

theorem extendPath_append {u : Url} {parts : List (List Char)} (hpath : u.path = .segments parts)
    (dirs : List (List Char)) :
    ∃ kept, ∀ name, IsPlain name →
      u.extendPath (dirs ++ [name]) = { u with path := .segments (kept ++ [name]) } := by
  let write (s : List Char) : List Char :=
    encode (if isSpecialScheme u.scheme then inSpecialSegmentSet else inSegmentSet)
      (s.filter fun c => c ≠ '\t' && c ≠ '\n' && c ≠ '\r')
  obtain ⟨front, hfront⟩ := addSegments_eq parts
  obtain ⟨kept, hkept⟩ := trimFilePath_append (isFile u.scheme) (front ++ dirs.map write)
  refine ⟨kept, fun name hname => ?_⟩
  have hwrite : write name = name := hname.encode_filter _
  have hnew : (dirs ++ [name]).map write = dirs.map write ++ [name] := by simp [hwrite]
  rw [extendPath, hpath]
  show { u with path := .segments (trimFilePath (isFile u.scheme)
    (addSegments parts ((dirs ++ [name]).map write))) } = _
  rw [hnew, hfront _ (by simp), ← List.append_assoc, hkept name hname.1]

end Url

namespace Cdn

open Url

/-- Whether a base is a URL that is not made of segments, so that nothing can be put behind it. -/
def IsOpaque (base : String) : Prop :=
  ∃ url text, Url.ofString? base = some url ∧ url.path = .opaquePath text

/-- An address is the name of the file between two texts that are the same for every name. -/
theorem address_eq {base : String} (h : ¬ IsOpaque base) (dirs : List String) (size : UInt32) :
    ∃ front back, ∀ file : String, IsPlain file.toList →
      (address base (dirs ++ [file]) size).toList = front ++ file.toList ++ back := by
  unfold address
  cases hbase : Url.ofString? base with
  | none =>
    let front := String.ofList (base.toList.reverse.dropWhile (· == '/')).reverse ++ "/"
    let folder := if dirs = [] then "" else "/".intercalate dirs ++ "/"
    refine ⟨(front ++ folder).toList, ("?size=" ++ toString size.toNat).toList, fun file _ => ?_⟩
    have hname : "/".intercalate (dirs ++ [file]) = folder ++ file := by
      by_cases hdirs : dirs = []
      · simp [folder, hdirs]
      · simp [folder, hdirs, String.intercalate_append_of_ne_nil hdirs (List.cons_ne_nil file [])]
    simp [hname, front]
  | some url =>
    cases hpath : url.path with
    | opaquePath text => exact absurd ⟨url, text, hbase, hpath⟩ h
    | segments parts =>
      obtain ⟨kept, hkept⟩ := extendPath_append hpath (dirs.map String.toList)
      obtain ⟨front, back, hchars⟩ := chars_append
        (url.addQueryPair "size".toList (toString size.toNat).toList) kept
      refine ⟨front, back, fun file hfile => ?_⟩
      dsimp only
      rw [List.map_append, List.map_singleton, hkept _ hfile, Url.toString, String.toList_ofList]
      exact hchars _

theorem address_of_isOpaque {base : String} (h : IsOpaque base) (segments others : List String)
    (size : UInt32) : address base segments size = address base others size := by
  obtain ⟨url, text, hbase, hpath⟩ := h
  have hextend (new : List (List Char)) : url.extendPath new = url := by rw [extendPath, hpath]
  simp only [address, hbase, hextend]

/-- The name of the file of an emoji. -/
def emojiFile (id : EmojiId) (animated : Bool) : String :=
  id.toString ++ if animated then ".gif" else ".png"

theorem inSpecialSegmentSet_of_isDigit {c : Char} (h : c.isDigit = true) :
    inSpecialSegmentSet c = false := by
  obtain ⟨hlow, hhigh⟩ : 48 ≤ c.toNat ∧ c.toNat ≤ 57 := by
    simpa [Char.isDigit, UInt32.le_iff_toNat_le] using h
  rw [← Char.ofNat_toNat c]
  interval_cases c.toNat <;> decide

theorem isPlain_emojiFile (id : EmojiId) (animated : Bool) :
    IsPlain (emojiFile id animated).toList := by
  have hdigits : id.toString.toList = Nat.toDigits 10 id.value.toNat := Nat.toList_repr
  refine ⟨by cases animated <;> simp [emojiFile], fun c hc => ?_⟩
  rw [emojiFile, String.toList_append, List.mem_append, hdigits] at hc
  rcases hc with hdigit | hextension
  · exact inSpecialSegmentSet_of_isDigit
      (Nat.isDigit_of_mem_toDigits (by decide) (by decide) hdigit)
  · have hall : (if animated then ".gif" else ".png").toList.all
        (fun d => !inSpecialSegmentSet d) = true := by cases animated <;> rfl
    rw [List.all_eq_true] at hall
    simpa using hall c hextension

/-- The name of a file says which emoji it is and whether it moves. -/
theorem emojiFile_inj {i j : EmojiId} {x y : Bool} (h : emojiFile i x = emojiFile j y) :
    i = j ∧ x = y := by
  have hdigits (id : EmojiId) : id.toString.toList = Nat.toDigits 10 id.value.toNat :=
    Nat.toList_repr
  have hlist := congrArg String.toList h
  simp only [emojiFile, String.toList_append, hdigits] at hlist
  obtain ⟨hid, hextension⟩ := List.append_inj' hlist (by cases x <;> cases y <;> rfl)
  have hvalue := congrArg (Text.readNat? 10) hid
  rw [Text.readNat?_toDigits (by decide) (by decide),
    Text.readNat?_toDigits (by decide) (by decide), Option.some.injEq] at hvalue
  refine ⟨congrArg Id.mk (UInt64.toNat_inj.1 hvalue), ?_⟩
  cases x <;> cases y <;> first | rfl | exact absurd hextension (by decide)

/-- Two emoji have the same address just if they are the same, or if nothing can be put behind the
base. -/
theorem emojiUrl_eq_iff (base : String) (i j : EmojiId) (x y : Bool) (size : UInt32) :
    emojiUrl base i x size = emojiUrl base j y size ↔ (i = j ∧ x = y) ∨ IsOpaque base := by
  constructor
  · intro heq
    refine or_iff_not_imp_right.2 fun hbase => emojiFile_inj ?_
    obtain ⟨front, back, haddress⟩ := address_eq hbase ["emojis"] size
    have hlist := congrArg String.toList heq
    rw [show (emojiUrl base i x size).toList = front ++ (emojiFile i x).toList ++ back from
        haddress _ (isPlain_emojiFile i x),
      show (emojiUrl base j y size).toList = front ++ (emojiFile j y).toList ++ back from
        haddress _ (isPlain_emojiFile j y)] at hlist
    exact String.toList_injective (List.append_cancel_left (List.append_cancel_right hlist))
  · rintro (⟨rfl, rfl⟩ | hbase)
    · rfl
    · exact address_of_isOpaque hbase _ _ size

theorem emojiUrl_localhost :
    emojiUrl "localhost:8080" ⟨1⟩ false 22 = "localhost:8080?size=22" ∧
      emojiUrl "localhost:8080" ⟨2⟩ false 22 = "localhost:8080?size=22" := by
  decide +kernel

end Cdn

end RichChat
