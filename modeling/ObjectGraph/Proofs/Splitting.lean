import Mathlib.Data.List.TakeWhile
import ObjectGraph.Path

/-! Texts as paths, and paths as texts.

A text is cut at its dots and at nothing else: joined again, its segments are the text. A segment is
a name and, behind its first opening bracket, a key. What is written as names and keys without the
characters that cut a path is read as the same names and keys.
-/

set_option autoImplicit false
namespace ObjectGraph

section Cuts
variable {c : Char} {text front : String}

theorem toList_cut {mark : String} (single : mark.toList = [c]) (front back : String) :
    (front ++ mark ++ back).toList = front.toList ++ c :: back.toList := by
  simp [single]

theorem exists_cut (found : c ∈ text.toList) (mark : String) (single : mark.toList = [c]) :
    ∃ front back : String, c ∉ front.toList ∧ text = front ++ mark ++ back := by
  obtain ⟨front, back, split, absent⟩ := List.eq_append_cons_of_mem found
  refine ⟨String.ofList front, String.ofList back, ?_, ?_⟩
  · rwa [String.toList_ofList]
  · apply String.toList_injective
    rw [toList_cut single, String.toList_ofList, String.toList_ofList, split]

theorem bne_of_not_mem (absent : c ∉ text.toList) : ∀ d ∈ text.toList, (d != c) = true := by
  intro d member
  exact bne_iff_ne.2 (ne_of_mem_of_not_mem member absent)

theorem takeWhile_whole (absent : c ∉ text.toList) : text.toList.takeWhile (· != c) = text.toList :=
  List.takeWhile_eq_self_iff.2 (bne_of_not_mem absent)

theorem dropWhile_whole (absent : c ∉ text.toList) : text.toList.dropWhile (· != c) = [] :=
  List.dropWhile_eq_nil_iff.2 (bne_of_not_mem absent)

theorem takeWhile_cut (absent : c ∉ front.toList) (mark : String) (single : mark.toList = [c])
    (back : String) :
    (front ++ mark ++ back).toList.takeWhile (· != c) = front.toList := by
  rw [toList_cut single, List.takeWhile_append_of_pos (bne_of_not_mem absent),
    List.takeWhile_cons_of_neg (by simp), List.append_nil]

theorem dropWhile_cut (absent : c ∉ front.toList) (mark : String) (single : mark.toList = [c])
    (back : String) :
    (front ++ mark ++ back).toList.dropWhile (· != c) = c :: back.toList := by
  rw [toList_cut single, List.dropWhile_append_of_pos (bne_of_not_mem absent),
    List.dropWhile_cons_of_neg (by simp)]

end Cuts

namespace Segment

/-- How a text is written with a name and a key: the name goes up to the first opening bracket, and
the key from there to the next closing one, or to the end. -/
inductive Written : String → String → Option String → Prop
  | plain {name : String} : '[' ∉ name.toList → Written name name none
  | closed {name key : String} (rest : String) : '[' ∉ name.toList → ']' ∉ key.toList →
      Written (name ++ "[" ++ (key ++ "]" ++ rest)) name (some key)
  | unclosed {name key : String} : '[' ∉ name.toList → ']' ∉ key.toList →
      Written (name ++ "[" ++ key) name (some key)

theorem exists_written (text : String) : ∃ name key?, Written text name key? := by
  by_cases bracket : '[' ∈ text.toList
  · obtain ⟨name, after, plain, rfl⟩ := exists_cut bracket "[" rfl
    by_cases close : ']' ∈ after.toList
    · obtain ⟨key, rest, whole, rfl⟩ := exists_cut close "]" rfl
      exact ⟨name, some key, .closed rest plain whole⟩
    · exact ⟨name, some after, .unclosed plain close⟩
  · exact ⟨text, none, .plain bracket⟩

theorem read_bracket {name : String} (plain : '[' ∉ name.toList) (after : String) :
    (⟨name ++ "[" ++ after⟩ : Segment).name = name ∧
      (⟨name ++ "[" ++ after⟩ : Segment).key? =
        some (String.ofList (after.toList.takeWhile (· != ']'))) := by
  simp only [Segment.name, Segment.key?, takeWhile_cut plain "[" rfl, dropWhile_cut plain "[" rfl,
    String.ofList_toList, and_self]

theorem Written.read {text name : String} {key? : Option String} (written : Written text name key?) :
    (⟨text⟩ : Segment).name = name ∧ (⟨text⟩ : Segment).key? = key? := by
  cases written with
  | plain plain =>
    simp only [Segment.name, Segment.key?, takeWhile_whole plain, dropWhile_whole plain,
      String.ofList_toList, and_self]
  | closed rest plain whole =>
    obtain ⟨named, keyed⟩ := read_bracket plain _
    refine ⟨named, keyed.trans ?_⟩
    rw [takeWhile_cut whole "]" rfl, String.ofList_toList]
  | unclosed plain whole =>
    obtain ⟨named, keyed⟩ := read_bracket plain _
    refine ⟨named, keyed.trans ?_⟩
    rw [takeWhile_whole whole, String.ofList_toList]

theorem written_iff (s : Segment) (name : String) (key? : Option String) :
    Written s.text name key? ↔ s.name = name ∧ s.key? = key? := by
  constructor
  · exact Written.read
  · rintro ⟨rfl, rfl⟩
    obtain ⟨name, key?, written⟩ := exists_written s.text
    obtain ⟨named, keyed⟩ := written.read
    rwa [← named, ← keyed] at written

theorem written (s : Segment) : Written s.text s.name s.key? :=
  (s.written_iff _ _).2 ⟨rfl, rfl⟩

namespace Written

variable {text name key : String} {key? : Option String}

theorem indexed (written : Written text name key?) : key?.isSome = true ↔ '[' ∈ text.toList := by
  cases written with
  | plain plain => simp [plain]
  | closed rest => simp
  | unclosed => simp

theorem not_mem_name (written : Written text name key?) : '[' ∉ name.toList := by
  cases written <;> assumption

theorem not_mem_key (written : Written text name (some key)) : ']' ∉ key.toList := by
  cases written <;> assumption

theorem bracketed (plain : '[' ∉ name.toList) (whole : ']' ∉ key.toList) :
    Written (name ++ "[" ++ key ++ "]") name (some key) := by
  have closed := Written.closed "" plain whole
  rwa [String.append_empty, ← String.append_assoc] at closed

end Written

/-- A name, and a key where there is one, without the characters that would cut them. -/
structure Parts where
  name : String
  key? : Option String
  name_whole : '.' ∉ name.toList ∧ '[' ∉ name.toList
  key_whole : ∀ key, key? = some key → '.' ∉ key.toList ∧ ']' ∉ key.toList

namespace Parts

def text (parts : Parts) : String :=
  match parts.key? with
  | none => parts.name
  | some key => parts.name ++ "[" ++ key ++ "]"

theorem dot_not_mem_text (parts : Parts) : '.' ∉ parts.text.toList := by
  obtain ⟨name, key?, ⟨dotless, _⟩, key_whole⟩ := parts
  cases key? with
  | none => exact dotless
  | some key =>
    have := (key_whole key rfl).1
    simp [text, dotless, this]

theorem written (parts : Parts) : Written parts.text parts.name parts.key? := by
  obtain ⟨name, key?, ⟨_, plain⟩, key_whole⟩ := parts
  cases key? with
  | none => exact .plain plain
  | some key => exact .bracketed plain (key_whole key rfl).2

end Parts

end Segment

namespace Path

section Pieces
variable {cs piece : List Char}

theorem pieces_eq_splitOn (cs : List Char) : (pieces cs).1 :: (pieces cs).2 = cs.splitOn '.' := by
  induction cs with
  | nil => rfl
  | cons c cs ih =>
    rw [List.splitOn_cons_eq_if_modifyHead, ← ih, pieces]
    by_cases dot : c = '.'
    · simp only [dot, if_true, beq_self_eq_true]
    · simp only [dot, if_false, beq_iff_eq, List.modifyHead_cons]

theorem length_pieces (cs : List Char) : (pieces cs).2.length = cs.count '.' := by
  induction cs with
  | nil => rfl
  | cons c cs ih =>
    rw [pieces, List.count_cons]
    by_cases dot : c = '.'
    · simp only [dot, if_true, beq_self_eq_true, List.length_cons, ih]
    · simp only [dot, if_false, beq_iff_eq, ih, Nat.add_zero]

theorem dot_not_mem_pieces (member : piece ∈ (pieces cs).1 :: (pieces cs).2) : '.' ∉ piece := by
  induction cs generalizing piece with
  | nil =>
    obtain rfl := List.mem_singleton.1 member
    exact List.not_mem_nil
  | cons c cs ih =>
    rw [pieces] at member
    split at member
    · rcases List.mem_cons.1 member with rfl | member
      · exact List.not_mem_nil
      · exact ih member
    · rename_i other
      rcases List.mem_cons.1 member with rfl | member
      · rintro (_ | ⟨_, dot⟩)
        · exact other rfl
        · exact ih List.mem_cons_self dot
      · exact ih (List.mem_cons_of_mem _ member)

theorem pieces_of_not_mem (dotless : '.' ∉ cs) : pieces cs = (cs, []) := by
  induction cs with
  | nil => rfl
  | cons c cs ih =>
    obtain ⟨other, dotless⟩ := not_or.1 (mt List.mem_cons.2 dotless)
    rw [pieces, ih dotless, if_neg (Ne.symm other)]

theorem pieces_append (front back : List Char) : pieces (front ++ '.' :: back) =
    ((pieces front).1, (pieces front).2 ++ (pieces back).1 :: (pieces back).2) := by
  induction front with
  | nil => rfl
  | cons c front ih =>
    simp only [List.cons_append, pieces, ih]
    split <;> rfl

end Pieces

section Texts
variable {text front : String}

/-- A dot between two texts separates the paths that they are. -/
theorem ofString_append (p q : String) :
    ofString (p ++ "." ++ q) = (ofString p).append (ofString q) := by
  have joined : (p ++ "." ++ q).toList = p.toList ++ '.' :: q.toList := toList_cut rfl p q
  simp only [ofString, joined, pieces_append, append, segments, List.map_append, List.map_cons]

theorem segments_ofString (text : String) :
    (ofString text).segments = (text.toList.splitOn '.').map fun piece => ⟨String.ofList piece⟩ := by
  rw [← pieces_eq_splitOn]
  rfl

/-- The segments of a path, joined by dots, are the text that it was cut from. -/
theorem text_ofString (text : String) : (ofString text).text = text := by
  apply String.toList_injective
  have chars : (String.toList ∘ Segment.text) ∘ (fun piece => ⟨String.ofList piece⟩) = id := by
    funext piece
    exact String.toList_ofList
  rw [Path.text, String.toList_intercalate, segments_ofString, List.map_map, List.map_map, chars,
    List.map_id]
  exact List.intercalate_splitOn '.'

theorem dot_not_mem_segment {s : Segment} (member : s ∈ (ofString text).segments) :
    '.' ∉ s.text.toList := by
  rw [segments_ofString, ← pieces_eq_splitOn] at member
  obtain ⟨piece, inside, rfl⟩ := List.mem_map.1 member
  rw [String.toList_ofList]
  exact dot_not_mem_pieces inside

theorem ofString_of_not_mem (dotless : '.' ∉ text.toList) : ofString text = ⟨⟨text⟩, []⟩ := by
  simp only [ofString, pieces_of_not_mem dotless, String.ofList_toList, List.map_nil]

theorem ofString_cut (dotless : '.' ∉ front.toList) (back : String) :
    ofString (front ++ "." ++ back) = ⟨⟨front⟩, (ofString back).segments⟩ := by
  rw [ofString_append, ofString_of_not_mem dotless]
  rfl

def remainder? (text : String) : Option String :=
  match text.toList.dropWhile (· != '.') with
  | [] => none
  | _ :: rest => some (String.ofList rest)

theorem remainder?_of_not_mem (dotless : '.' ∉ text.toList) : remainder? text = none := by
  rw [remainder?, dropWhile_whole dotless]

theorem remainder?_cut (dotless : '.' ∉ front.toList) (back : String) :
    remainder? (front ++ "." ++ back) = some back := by
  simp only [remainder?, dropWhile_cut dotless "." rfl, String.ofList_toList]

theorem length_remainder? {rest : String} (remains : remainder? text = some rest) :
    rest.length < text.length := by
  by_cases dot : '.' ∈ text.toList
  · obtain ⟨front, back, dotless, rfl⟩ := exists_cut dot "." rfl
    obtain rfl : back = rest := Option.some.inj ((remainder?_cut dotless back).symm.trans remains)
    rw [String.length_append, String.length_append]
    have : 0 < ".".length := by decide
    omega
  · rw [remainder?_of_not_mem dot] at remains
    cases remains

/-- The segments of a text visited one after the other: the first one, and then those of what remains
behind its dot. -/
def visit (text : String) : List Segment :=
  let first : Segment := ⟨String.ofList (text.toList.takeWhile (· != '.'))⟩
  match _remains : remainder? text with
  | none => [first]
  | some rest => first :: visit rest
termination_by text.length
decreasing_by exact length_remainder? ‹_›

theorem next_ofString (text : String) :
    (ofString text).tail? = (remainder? text).map ofString := by
  by_cases dot : '.' ∈ text.toList
  · obtain ⟨front, back, dotless, rfl⟩ := exists_cut dot "." rfl
    rw [remainder?_cut dotless, ofString_cut dotless]
    rfl
  · rw [remainder?_of_not_mem dot, ofString_of_not_mem dot]
    rfl

theorem first_ofString (text : String) :
    (ofString text).first = ⟨String.ofList (text.toList.takeWhile (· != '.'))⟩ := by
  by_cases dot : '.' ∈ text.toList
  · obtain ⟨front, back, dotless, rfl⟩ := exists_cut dot "." rfl
    rw [ofString_cut dotless, takeWhile_cut dotless "." rfl, String.ofList_toList]
  · rw [ofString_of_not_mem dot, takeWhile_whole dot, String.ofList_toList]

theorem segments_eq (p : Path) :
    p.segments = p.first :: ((p.tail?.map segments).getD []) := by
  obtain ⟨first, rest⟩ := p
  cases rest <;> rfl

theorem visit_eq (text : String) : visit text = (ofString text).segments := by
  fun_induction visit text with
  | case1 text first remains =>
    rw [segments_eq, next_ofString, remains, first_ofString]
    rfl
  | case2 text first rest remains ih =>
    rw [segments_eq, next_ofString, remains, first_ofString, ih]
    rfl

end Texts

/-- What a text is as a path: its pieces between dots, each read as a name and a key, and each found
in what remains behind the one before it. -/
structure Splits (text : String) (p : Path) : Prop where
  count : p.segments.length = text.toList.count '.' + 1
  joined : p.text = text
  dotless : ∀ s ∈ p.segments, '.' ∉ s.text.toList
  indexed : ∀ s ∈ p.segments, s.key?.isSome = true ↔ '[' ∈ s.text.toList
  written : ∀ s ∈ p.segments, ∀ name key?,
    Segment.Written s.text name key? ↔ s.name = name ∧ s.key? = key?
  remains : p.tail?.map Path.text = remainder? text
  next : p.tail? = (remainder? text).map ofString
  visited : visit text = p.segments

theorem splits_ofString (text : String) : Splits text (ofString text) where
  count := by rw [segments, List.length_cons, ofString, List.length_map, length_pieces]
  joined := text_ofString text
  dotless := fun _ => dot_not_mem_segment
  indexed := fun s _ => s.written.indexed
  written := fun s _ => Segment.written_iff s
  remains := by
    have same : Path.text ∘ ofString = id := funext text_ofString
    rw [next_ofString, Option.map_map, same, Option.map_id]
    rfl
  next := next_ofString text
  visited := visit_eq text

/-- The names and keys joined by dots are cut into the same names and keys. -/
theorem segments_parts (first : Segment.Parts) (rest : List Segment.Parts) :
    (ofString (".".intercalate ((first :: rest).map Segment.Parts.text))).segments =
      (first :: rest).map fun parts => ⟨parts.text⟩ := by
  have dotless : ∀ piece ∈ (first :: rest).map fun parts => parts.text.toList, '.' ∉ piece := by
    intro piece member
    obtain ⟨parts, _, rfl⟩ := List.mem_map.1 member
    exact parts.dot_not_mem_text
  have pieces := List.splitOn_intercalate '.' dotless (List.cons_ne_nil _ _)
  rw [segments_ofString, String.toList_intercalate, List.map_map]
  calc ((".".toList.intercalate ((first :: rest).map fun parts => parts.text.toList)).splitOn '.').map
        (fun piece => (⟨String.ofList piece⟩ : Segment))
      = ((first :: rest).map fun parts => parts.text.toList).map
          (fun piece => (⟨String.ofList piece⟩ : Segment)) := congrArg _ pieces
    _ = (first :: rest).map fun parts => ⟨parts.text⟩ := by
      rw [List.map_map]
      apply List.map_congr_left
      intro parts _
      exact congrArg Segment.mk String.ofList_toList

/-- Every text is cut at its dots into a path that it is the text of, and what names and keys are
written as is cut into them again. -/
theorem tokenizes :
    (∀ text, Splits text (ofString text)) ∧
    ∀ (first : Segment.Parts) (rest : List Segment.Parts),
      (ofString (".".intercalate ((first :: rest).map Segment.Parts.text))).segments.map
          (fun s => (s.name, s.key?)) =
        (first :: rest).map fun parts => (parts.name, parts.key?) := by
  refine ⟨splits_ofString, fun first rest => ?_⟩
  rw [segments_parts, List.map_map]
  apply List.map_congr_left
  intro parts _
  obtain ⟨named, keyed⟩ := parts.written.read
  exact Prod.ext named keyed

example : (ofString "a]b[c[1].[2]x.").segments.map (fun s => (s.name, s.key?)) =
    [("a]b", some "c[1"), ("", some "2"), ("", none)] := by decide

end Path

end ObjectGraph
