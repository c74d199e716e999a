import Mathlib.Data.List.TakeWhile
import ObjectGraph.Declaration.Grammar

/-! Names, as texts of their own.

An identifier that is no keyword is scanned as one word, and read as the path of that single name, on its
own or behind a separator.
-/

set_option autoImplicit false
namespace ObjectGraph
namespace Text

variable {c : Char}

/-- What is checked of every character of the ASCII range holds of the characters in it. -/
theorem forall_ascii {P : Char → Prop} (each : ∀ n < 128, P (Char.ofNat n)) (ascii : c.toNat < 128) : P c :=
  Char.ofNat_toNat c ▸ each c.toNat ascii

/-- The ranges that are not inside of any of the outer ones. Both lists are in ascending order, so that
an outer range covers those that are left first. -/
def uncovered (inner outer : List (Nat × Nat)) : List (Nat × Nat) :=
  outer.foldl (fun left range => left.dropWhile fun part => range.1 ≤ part.1 && part.2 ≤ range.2) inner

theorem exists_covering {inner outer : List (Nat × Nat)} (all : uncovered inner outer = []) :
    ∀ part ∈ inner, ∃ range ∈ outer, range.1 ≤ part.1 ∧ part.2 ≤ range.2 := by
  induction outer generalizing inner with
  | nil =>
    cases all
    nofun
  | cons range outer ih =>
    intro part member
    rw [← List.takeWhile_append_dropWhile (l := inner)
      (p := fun part => range.1 ≤ part.1 && part.2 ≤ range.2), List.mem_append] at member
    rcases member with inside | left
    · have covers := List.mem_takeWhile_imp inside
      rw [Bool.and_eq_true, decide_eq_true_eq, decide_eq_true_eq] at covers
      exact ⟨range, List.mem_cons_self, covers⟩
    · obtain ⟨other, member, covers⟩ := ih all part left
      exact ⟨other, List.mem_cons_of_mem _ member, covers⟩

theorem startRanges_covered : uncovered identifierStartRanges identifierContinueRanges = [] := by
  decide +kernel

theorem isIdentifierContinue_of_start (starts : isIdentifierStart c = true) :
    isIdentifierContinue c = true := by
  by_cases ascii : c.toNat < 128
  · revert starts
    exact forall_ascii (P := fun c => isIdentifierStart c = true → isIdentifierContinue c = true)
      (by decide) ascii
  · rw [isIdentifierStart, if_neg ascii, List.any_eq_true] at starts
    rw [isIdentifierContinue, if_neg ascii, List.any_eq_true]
    obtain ⟨part, member, inside⟩ := starts
    obtain ⟨range, member', first, last⟩ := exists_covering startRanges_covered part member
    simp only [Bool.and_eq_true, decide_eq_true_eq] at inside
    exact ⟨range, member', by simp; omega⟩

theorem isDigit_of_start (starts : isIdentifierStart c = true) : c.isDigit = false := by
  rw [← Bool.not_eq_true, Char.isDigit_iff_toNat]
  intro (digit : 48 ≤ c.toNat ∧ c.toNat ≤ 57)
  have ascii : c.toNat < 128 := by omega
  revert starts digit
  exact forall_ascii (P := fun c => isIdentifierStart c = true → ¬ (48 ≤ c.toNat ∧ c.toNat ≤ 57))
    (by decide) ascii

theorem blankRanges_apart : ∀ range ∈ identifierStartRanges, ∀ blank ∈ Declaration.blankRanges,
    range.2 < blank.1 ∨ blank.2 < range.1 := by
  decide +kernel

theorem isBlank_of_start (starts : isIdentifierStart c = true) : Declaration.isBlank c = false := by
  by_cases ascii : c.toNat < 128
  · revert starts
    exact forall_ascii (P := fun c => isIdentifierStart c = true → Declaration.isBlank c = false)
      (by decide) ascii
  · rw [isIdentifierStart, if_neg ascii, List.any_eq_true] at starts
    obtain ⟨range, member, inside⟩ := starts
    rw [Declaration.isBlank, if_neg ascii, List.any_eq_false]
    intro blank member'
    simp only [Bool.and_eq_true, decide_eq_true_eq] at inside ⊢
    have := blankRanges_apart range member blank member'
    omega

end Text

namespace Declaration

open Text (isIdentifierStart isIdentifierContinue isIdentifierContinue_of_start)

/-- The text is an identifier and no keyword. -/
structure IsPlainName (name : String) : Prop where
  identifier : Text.isIdentifier name.toList = true
  notKeyword : isIdentifierWord name = true

namespace Token

variable {c : Char} {cs : List Char}

theorem afterSigns_word (content : Literal.Content) (signs : Nat)
    (continues : ∀ d ∈ cs, isIdentifierContinue d = true) : Literal.afterSigns content signs cs = none := by
  unfold Literal.afterSigns
  split
  · exact absurd (continues '#' List.mem_cons_self) (by decide)
  · exact absurd (continues '"' List.mem_cons_self) (by decide)
  · rfl

theorem literal_word (starts : isIdentifierStart c = true)
    (continues : ∀ d ∈ cs, isIdentifierContinue d = true) : Literal.after (c :: cs) = none := by
  unfold Literal.after
  split
  next same => cases same; exact absurd starts (by decide)
  next same => cases same; exact afterSigns_word _ _ continues
  next same => cases same; exact absurd (continues '"' List.mem_cons_self) (by decide)
  next same =>
    cases same
    exact afterSigns_word _ _ fun d member => continues d (List.mem_cons_of_mem _ member)
  next same => cases same; exact absurd (continues '\'' List.mem_cons_self) (by decide)
  next same => cases same; exact absurd (continues '"' List.mem_cons_self) (by decide)
  next same =>
    cases same
    exact afterSigns_word _ _ fun d member => continues d (List.mem_cons_of_mem _ member)
  next same => cases same; exact absurd starts (by decide)
  next => simp [Literal.afterNumber, Text.isDigit_of_start starts]

theorem markChars_not_start : markChars.any isIdentifierStart = false := by
  decide

theorem startsMark_word (starts : isIdentifierStart c = true) : startsMark (c :: cs) = false := by
  unfold startsMark
  rw [Bool.and_eq_false_iff]
  right
  rw [List.head?_cons, Option.any_some, ← Bool.not_eq_true, List.contains_iff_mem]
  intro member
  exact List.any_eq_false.1 markChars_not_start c member starts

theorem quotedStarts_broken :
    quotedStarts.all (·.toList.tail.any fun d => !isIdentifierContinue d) = true := by
  decide

theorem not_quoted_word (continues : ∀ d ∈ cs, isIdentifierContinue d = true) :
    quotedStarts.any (·.toList.isPrefixOf (c :: cs)) = false := by
  rw [List.any_eq_false]
  intro start member quoted
  obtain ⟨d, within, broken⟩ := List.any_eq_true.1 (List.all_eq_true.1 quotedStarts_broken start member)
  obtain ⟨rest, same⟩ := List.isPrefixOf_iff_prefix.1 quoted
  cases chars : start.toList with
  | nil =>
    rw [chars] at within
    cases within
  | cons first others =>
    rw [chars] at within same
    cases same
    rw [continues d (List.mem_append_left _ within)] at broken
    cases broken

theorem ofWord_word (starts : isIdentifierStart c = true)
    (continues : ∀ d ∈ cs, isIdentifierContinue d = true) :
    ofWord (c :: cs) = some (String.ofList (c :: cs), []) := by
  have whole : ∀ d ∈ c :: cs, isIdentifierContinue d = true :=
    List.forall_mem_cons.2 ⟨isIdentifierContinue_of_start starts, continues⟩
  unfold ofWord
  split
  next same =>
    cases same
    exact absurd (continues '#' List.mem_cons_self) (by decide)
  next =>
    rw [List.head?_cons, Option.any_some, if_pos starts, List.takeWhile_eq_self_iff.2 whole,
      List.dropWhile_eq_nil_iff.2 whole]

theorem ofLeaf_word (starts : isIdentifierStart c = true)
    (continues : ∀ d ∈ cs, isIdentifierContinue d = true) :
    ofLeaf (c :: cs) = some (word (String.ofList (c :: cs)), []) := by
  -- Literals, lifetimes, separators and marks are tried before words, and a word is none of them.
  unfold ofLeaf
  rw [literal_word starts continues]
  dsimp only
  split
  next same => cases same; exact absurd starts (by decide)
  next same => cases same; exact absurd starts (by decide)
  next same =>
    cases same
    rw [startsMark_word starts, not_quoted_word continues, ofWord_word starts continues]
    rfl
  next same => cases same

theorem ofStart_word (starts : isIdentifierStart c = true)
    (continues : ∀ d ∈ cs, isIdentifierContinue d = true) :
    ofStart (c :: cs) = some ([word (String.ofList (c :: cs))], []) := by
  unfold ofStart
  split
  case h_1 same => cases same
  case h_10 same =>
    cases same
    rw [Text.isBlank_of_start starts, ofLeaf_word starts continues]
    rfl
  all_goals
    next same =>
      cases same
      exact absurd starts (by decide)

theorem scanWithin_cons {before inside : List Bracket} {tokens others : List Token} {rest : List Char}
    (start : ofStart (c :: cs) = some (tokens, rest)) (opened : tokens.foldlM openAfter before = some inside)
    (following : scanWithin inside (endLike cs rest) = some others) :
    scanWithin before (c :: cs) = some (tokens ++ others) := by
  rw [scanWithin]
  simp only [start, opened, following, bind, Option.bind, pure]

/-- A word is scanned as a token of its own. -/
theorem scanWithin_word (starts : isIdentifierStart c = true)
    (continues : ∀ d ∈ cs, isIdentifierContinue d = true) :
    scanWithin [] (c :: cs) = some [word (String.ofList (c :: cs))] := by
  have ended : scanWithin [] (endLike cs ([] : List Char)) = some [] := by
    rw [endLike, List.length_nil, Nat.sub_zero, List.drop_length, scanWithin]
    rfl
  exact scanWithin_cons (ofStart_word starts continues) rfl ended

end Token

namespace IsPlainName

variable {name : String}

theorem chars (plain : IsPlainName name) : ∃ c cs, name.toList = c :: cs ∧ isIdentifierStart c = true ∧
    ∀ d ∈ cs, isIdentifierContinue d = true := by
  have identifier := plain.identifier
  unfold Text.isIdentifier at identifier
  split at identifier
  · cases identifier
  · cases identifier
  next c cs _ same =>
    rw [Bool.and_eq_true, List.all_eq_true] at identifier
    exact ⟨c, cs, same, identifier⟩

theorem scan (plain : IsPlainName name) : Token.scan name = some [.word name] := by
  obtain ⟨c, cs, same, starts, continues⟩ := plain.chars
  have scanned := Token.scanWithin_word starts continues
  rw [← same, String.ofList_toList] at scanned
  unfold Token.scan
  split
  next mark =>
    rw [same] at mark
    cases mark
    exact absurd starts (by decide +kernel)
  next => exact scanned

theorem scan_absolute (plain : IsPlainName name) :
    Token.scan ("::" ++ name) = some [.separator, .word name] := by
  obtain ⟨c, cs, same, starts, continues⟩ := plain.chars
  have scanned := Token.scanWithin_word starts continues
  rw [← same, String.ofList_toList] at scanned
  have chars : ("::" ++ name).toList = ':' :: ':' :: name.toList := by simp
  have separator : Token.ofStart (':' :: ':' :: name.toList) = some ([.separator], name.toList) := rfl
  have following : Token.scanWithin [] (endLike (':' :: name.toList) name.toList) = some [.word name] := by
    rw [show endLike (':' :: name.toList) name.toList = name.toList from endLike_append [':'] _]
    exact scanned
  rw [Token.scan, chars]
  exact Token.scanWithin_cons separator rfl following

theorem readSegments_word (plain : IsPlainName name) (place : Grammar.PathPlace) (fuel : Nat) :
    Grammar.readSegments place (fuel + 2) [.word name] = .ok ([⟨name, none, ""⟩], []) := by
  have first : Grammar.readSegment place (fuel + 1) [.word name] = .ok (⟨name, none, ""⟩, []) := by
    unfold Grammar.readSegment
    simp only [plain.notKeyword, Bool.true_or, if_true]
    split
    · rfl
    · cases place <;> rfl
  unfold Grammar.readSegments
  rw [first]
  rfl

theorem ofText? (plain : IsPlainName name) : ItemPath.ofText? name = some ⟨false, [⟨name, ""⟩]⟩ := by
  have path : Grammar.readPath .inType 32 [.word name] = .ok (⟨false, [⟨name, none, ""⟩]⟩, []) := by
    unfold Grammar.readPath
    exact bind_eq_ok.2 ⟨_, plain.readSegments_word .inType 29, rfl⟩
  have read : ItemPath.read [.word name] = .ok (⟨false, [⟨name, ""⟩]⟩, []) := by
    rw [ItemPath.read, show Grammar.depthFor [Token.word name] = 32 from rfl, path]
    rfl
  rw [ItemPath.ofText?, plain.scan]
  simp only [bind, Option.bind, read]

theorem ofText?_absolute (plain : IsPlainName name) :
    ItemPath.ofText? ("::" ++ name) = some ⟨true, [⟨name, ""⟩]⟩ := by
  have path : Grammar.readPath .inType 48 [.separator, .word name] =
      .ok (⟨true, [⟨name, none, ""⟩]⟩, []) := by
    unfold Grammar.readPath
    exact bind_eq_ok.2 ⟨_, plain.readSegments_word .inType 45, rfl⟩
  have read : ItemPath.read [.separator, .word name] = .ok (⟨true, [⟨name, ""⟩]⟩, []) := by
    rw [ItemPath.read, show Grammar.depthFor [Token.separator, Token.word name] = 48 from rfl, path]
    rfl
  rw [ItemPath.ofText?, plain.scan_absolute]
  simp only [bind, Option.bind, read]

end IsPlainName
end Declaration
end ObjectGraph
