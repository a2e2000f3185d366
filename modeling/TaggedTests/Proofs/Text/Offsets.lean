import TaggedTests.Proofs.Block.Front
import TaggedTests.Text.Utf8

/-!
Offsets in the bytes of a text: where a pattern is found, and cutting at them.

A place counts characters and an offset counts bytes. Searching bytes can find a pattern inside a
character, and cutting bytes can divide one; neither happens to patterns of single bytes.
-/

namespace TaggedTests

namespace Text

variable {text front rest pattern part : Text} {bytes : Bytes} {p : UInt8} {c d : Char}
  {place start stop offset : Nat}

/-- The bytes of joined texts are joined. -/
@[simp] theorem utf8_append (front rest : Text) : utf8 (front ++ rest) = utf8 front ++ utf8 rest :=
  List.flatMap_append

/-- The bytes of the first character come before those of the others. -/
theorem utf8_cons (c : Char) (rest : Text) :
    utf8 (c :: rest) = String.utf8EncodeChar c ++ utf8 rest :=
  List.flatMap_cons

/-- The bytes of the first character are counted with those of the others. -/
theorem length_utf8_cons (c : Char) (rest : Text) :
    (utf8 (c :: rest)).length = c.utf8Size + (utf8 rest).length := by
  rw [utf8_cons, List.length_append, String.length_utf8EncodeChar]

/-- Every character has a byte. -/
theorem utf8EncodeChar_ne_nil (c : Char) : String.utf8EncodeChar c ≠ [] := by
  refine List.ne_nil_of_length_pos ?_
  -- Every character takes a byte at least.
  rw [String.length_utf8EncodeChar]
  exact c.utf8Size_pos

/-- Is the character one that is encoded in a single byte? -/
def isAscii (c : Char) : Bool := c.utf8Size = 1

/-- The single byte of a character. -/
theorem utf8EncodeChar_of_isAscii (ascii : isAscii c = true) :
    String.utf8EncodeChar c = [c.val.toUInt8] :=
  String.utf8EncodeChar_eq_singleton (of_decide_eq_true ascii)

/-- Every byte of a character that takes several is above those of the characters that take one. -/
theorem le_of_mem_utf8EncodeChar (wide : isAscii c = false) :
    ∀ b ∈ String.utf8EncodeChar c, 128 ≤ b := by
  have large : ¬ c.val.toNat ≤ 127 := fun small =>
    of_decide_eq_false wide (Char.utf8Size_eq_one_iff.2 small)
  have bound := c.val.toNat_lt_size
  intro b member
  rw [UInt8.le_iff_toNat_le]
  -- The leading byte is at least 192, and those that continue it are at least 128.
  simp only [String.utf8EncodeChar, large, if_false] at member
  split at member
  · simp only [List.mem_cons, List.not_mem_nil, or_false] at member
    rcases member with rfl | rfl <;> simp <;> omega
  · split at member <;> simp only [List.mem_cons, List.not_mem_nil, or_false] at member
    · rcases member with rfl | rfl | rfl <;> simp <;> omega
    · rcases member with rfl | rfl | rfl | rfl <;> simp <;> omega

/-- The single byte of a character is below those of the characters that take several. -/
theorem toUInt8_lt (ascii : isAscii c = true) : c.val.toUInt8 < 128 := by
  have small : c.val.toNat ≤ 127 := Char.utf8Size_eq_one_iff.1 (of_decide_eq_true ascii)
  have number : (128 : UInt8).toNat = 128 := rfl
  -- Cutting the code point down to a byte loses nothing of so small a number.
  rw [UInt8.lt_iff_toNat_lt, UInt32.toNat_toUInt8, number]
  omega

/-- Different characters of one byte have different bytes. -/
theorem eq_of_toUInt8_eq (first : isAscii c = true) (second : isAscii d = true)
    (same : c.val.toUInt8 = d.val.toUInt8) : c = d := by
  -- Both characters have numbers that fit into a byte.
  have low : c.val.toNat ≤ 127 := Char.utf8Size_eq_one_iff.1 (of_decide_eq_true first)
  have lows : d.val.toNat ≤ 127 := Char.utf8Size_eq_one_iff.1 (of_decide_eq_true second)
  have numbers := congrArg UInt8.toNat same
  simp only [UInt32.toNat_toUInt8] at numbers
  exact Char.ext (UInt32.toNat_inj.1 (by omega))

/-- The byte of a character is among those of another character only if this is the same one. -/
theorem eq_of_mem_utf8EncodeChar (ascii : isAscii c = true)
    (member : c.val.toUInt8 ∈ String.utf8EncodeChar d) : c = d := by
  -- The other character is either told by its single byte, or all of its bytes are too high.
  cases other : isAscii d with
  | true =>
    rw [utf8EncodeChar_of_isAscii other, List.mem_singleton] at member
    exact eq_of_toUInt8_eq ascii other member
  | false =>
    have high := le_of_mem_utf8EncodeChar other _ member
    exact absurd (toUInt8_lt ascii) (UInt8.not_lt.2 high)

/-- Bytes start with those of a pattern of single bytes exactly where the text starts with the
pattern. -/
theorem utf8_prefix_iff (ascii : ∀ c ∈ pattern, isAscii c = true) :
    utf8 pattern <+: utf8 text ↔ pattern <+: text := by
  induction pattern generalizing text with
  | nil => simp [utf8]
  | cons p ps ih =>
    obtain ⟨own, others⟩ := List.forall_mem_cons.1 ascii
    rw [utf8_cons, utf8EncodeChar_of_isAscii own, List.singleton_append]
    rcases text with _ | ⟨c, rest⟩
    · simp [utf8]
    · by_cases same : p = c
      · -- The same character takes the same byte off both sides.
        rw [utf8_cons, ← same, utf8EncodeChar_of_isAscii own, List.singleton_append,
          List.prefix_cons_inj, List.prefix_cons_inj, ih others]
      · -- The first byte of another character is another one.
        refine iff_of_false (fun starts => same ?_) (fun starts => same ?_)
        · refine eq_of_mem_utf8EncodeChar own ?_
          obtain ⟨first, more, encoded⟩ := List.exists_cons_of_ne_nil (utf8EncodeChar_ne_nil c)
          rw [utf8_cons, encoded, List.cons_append, List.cons_prefix_cons] at starts
          rw [encoded, starts.1]
          exact List.mem_cons_self ..
        · exact (List.cons_prefix_cons.1 starts).1

/-- Offsets at which a pattern of bytes is found from left to right, without overlap; the first
bytes still belong to what was found before. -/
def offsetsFrom (pattern : Bytes) (start : Nat) : Nat → Bytes → List Nat
  | _, [] => []
  | taken + 1, _ :: rest => offsetsFrom pattern (start + 1) taken rest
  | 0, b :: rest =>
    if pattern.isPrefixOf (b :: rest) then
      start :: offsetsFrom pattern (start + 1) (pattern.length - 1) rest
    else offsetsFrom pattern (start + 1) 0 rest

/-- Offsets in bytes at which a pattern is found in a text from left to right, without overlap. -/
def offsets (pattern text : Text) : List Nat := offsetsFrom (utf8 pattern) 0 0 (utf8 text)

/-- Bytes that still belong to what was found before are passed. -/
theorem offsetsFrom_taken (pattern : Bytes) (start : Nat) (bytes others : Bytes) :
    offsetsFrom pattern start bytes.length (bytes ++ others) =
      offsetsFrom pattern (start + bytes.length) 0 others := by
  -- The search moves on by one byte while one less is still to be passed.
  induction bytes generalizing start with
  | nil => rfl
  | cons b bytes ih =>
    have shift : start + 1 + bytes.length = start + (b :: bytes).length := by
      rw [List.length_cons]
      omega
    rw [List.length_cons, List.cons_append, offsetsFrom, ih, shift, List.length_cons]

/-- Bytes with which a pattern does not begin are passed. -/
theorem offsetsFrom_foreign {more : Bytes} (foreign : p ∉ bytes) (start : Nat) (others : Bytes) :
    offsetsFrom (p :: more) start 0 (bytes ++ others) =
      offsetsFrom (p :: more) (start + bytes.length) 0 others := by
  induction bytes generalizing start with
  | nil => rfl
  | cons b bytes ih =>
    rw [List.mem_cons, not_or] at foreign
    -- The first byte of the pattern alone rules out a match here.
    have absent : (p :: more).isPrefixOf (b :: (bytes ++ others)) = false := by
      simp [List.isPrefixOf, foreign.1]
    have shift : start + 1 + bytes.length = start + (b :: bytes).length := by
      rw [List.length_cons]
      omega
    rw [List.cons_append, offsetsFrom, absent, if_neg Bool.false_ne_true, ih foreign.2, shift]

/-- The number of bytes in front of a place. -/
def offsetAt (text : Text) (place : Nat) : Nat := (utf8 (text.take place)).length

/-- The bytes in front of the place behind a part are those of this part. -/
theorem offsetAt_append (front rest : Text) :
    offsetAt (front ++ rest) front.length = (utf8 front).length := by
  rw [offsetAt, List.take_left]

section

variable {p : Char} {ps : Text}

/-- The bytes of a pattern that begins with a single byte. -/
theorem utf8_cons_of_isAscii (ascii : isAscii p = true) (ps : Text) :
    utf8 (p :: ps) = p.val.toUInt8 :: utf8 ps := by
  rw [utf8_cons, utf8EncodeChar_of_isAscii ascii, List.singleton_append]

/-- A pattern is found in the bytes of a text that starts with it, and searched for again behind its
first byte, since it does not begin with any other. -/
theorem offsetsFrom_utf8_of_prefix (ascii : ∀ c ∈ p :: ps, isAscii c = true) (alone : p ∉ ps)
    (start : Nat) (rest : Text) :
    offsetsFrom (utf8 (p :: ps)) start 0 (utf8 (p :: (ps ++ rest))) =
      start :: offsetsFrom (utf8 (p :: ps)) (start + 1) 0 (utf8 (ps ++ rest)) := by
  have own := ascii p (List.mem_cons_self ..)
  have found : (utf8 (p :: ps)).isPrefixOf (utf8 (p :: (ps ++ rest))) = true :=
    List.isPrefixOf_iff_prefix.2 ((utf8_prefix_iff ascii).2 (List.prefix_append (p :: ps) rest))
  have foreign : p.val.toUInt8 ∉ utf8 ps := fun inside => by
    obtain ⟨c, member, byte⟩ := List.mem_flatMap.1 inside
    exact alone (eq_of_mem_utf8EncodeChar own byte ▸ member)
  -- What the search passes as taken it would have passed as foreign, so no match is lost.
  rw [utf8_cons_of_isAscii own (ps ++ rest)] at found ⊢
  rw [offsetsFrom, if_pos found, utf8_append, utf8_cons_of_isAscii own ps, List.length_cons,
    Nat.add_sub_cancel, offsetsFrom_taken, offsetsFrom_foreign foreign]

/-- The bytes of a character at which a pattern does not start are passed. -/
theorem offsetsFrom_utf8_of_not_prefix (ascii : ∀ c ∈ p :: ps, isAscii c = true)
    (absent : ¬ p :: ps <+: c :: rest) (start : Nat) :
    offsetsFrom (utf8 (p :: ps)) start 0 (utf8 (c :: rest)) =
      offsetsFrom (utf8 (p :: ps)) (start + (String.utf8EncodeChar c).length) 0 (utf8 rest) := by
  have own := ascii p (List.mem_cons_self ..)
  cases single : isAscii c with
  | true =>
    -- Of a single byte the search is over at once, since the text does not start with the pattern.
    have missing : ¬ (utf8 (p :: ps)).isPrefixOf (utf8 (c :: rest)) = true := by
      rw [List.isPrefixOf_iff_prefix, utf8_prefix_iff ascii]
      exact absent
    rw [utf8_cons_of_isAscii single] at missing ⊢
    rw [offsetsFrom, if_neg missing, utf8EncodeChar_of_isAscii single]
    rfl
  | false =>
    -- None of several bytes is the single one with which the pattern begins.
    have foreign : p.val.toUInt8 ∉ String.utf8EncodeChar c := fun inside => by
      rw [← eq_of_mem_utf8EncodeChar own inside, own] at single
      cases single
    rw [utf8_cons c rest, utf8_cons_of_isAscii own ps, offsetsFrom_foreign foreign]

/-- A pattern of single bytes that begins with a character of its own is found in the bytes of a
text where it stands in the text. -/
theorem offsetsFrom_utf8 (ascii : ∀ c ∈ p :: ps, isAscii c = true) (alone : p ∉ ps)
    (front rest : Text) :
    offsetsFrom (utf8 (p :: ps)) (utf8 front).length 0 (utf8 rest) =
      (positionsFrom (p :: ps) front.length rest).map (offsetAt (front ++ rest)) := by
  induction rest generalizing front with
  | nil => simp [positionsFrom, utf8, offsetsFrom]
  | cons c rest ih =>
    -- One character is passed at a time, with all of its bytes.
    have bytes : (utf8 (front ++ [c])).length =
        (utf8 front).length + (String.utf8EncodeChar c).length := by simp [utf8]
    have later := ih (front ++ [c])
    rw [bytes, List.append_assoc, List.singleton_append, List.length_append,
      List.length_singleton] at later
    by_cases starts : p :: ps <+: c :: rest
    · -- The first place is this one, and the character has the single byte of the pattern.
      have here : (p :: ps).isPrefixOf (c :: rest) = true := List.isPrefixOf_iff_prefix.2 starts
      rw [positionsFrom, if_pos here, List.map_cons, offsetAt_append, ← later]
      obtain ⟨behind, whole⟩ := starts
      obtain ⟨rfl, rfl⟩ := List.cons.inj whole
      rw [utf8EncodeChar_of_isAscii (ascii p (List.mem_cons_self ..))]
      exact offsetsFrom_utf8_of_prefix ascii alone _ behind
    · -- Nothing is found here, neither at the character nor inside it.
      have here : ¬ (p :: ps).isPrefixOf (c :: rest) = true :=
        mt List.isPrefixOf_iff_prefix.1 starts
      rw [positionsFrom, if_neg here, ← later]
      exact offsetsFrom_utf8_of_not_prefix ascii starts _

/-- A pattern of single bytes that begins with a character of its own is found in the bytes of a
text at the offsets of its places. -/
theorem offsets_eq_map (ascii : ∀ c ∈ p :: ps, isAscii c = true) (alone : p ∉ ps) (text : Text) :
    offsets (p :: ps) text = (positions (p :: ps) text).map (offsetAt text) :=
  offsetsFrom_utf8 ascii alone [] text

end

/-- A pattern stands in the text at each of its places. -/
theorem prefix_drop_of_mem_positionsFrom (front : Text)
    (found : place ∈ positionsFrom pattern front.length rest) :
    pattern <+: (front ++ rest).drop place := by
  -- The place is that of the first character at hand, or one further on.
  induction rest generalizing front with
  | nil =>
    simp only [positionsFrom] at found
    split at found
    · next none => simp [List.isEmpty_iff.1 none]
    · simp at found
  | cons c rest ih =>
    -- Behind the first character, the search goes on as if it belonged to the front.
    have later (inside : place ∈ positionsFrom pattern (front.length + 1) rest) :
        pattern <+: (front ++ c :: rest).drop place := by
      have moved := ih (front ++ [c])
      rw [List.length_append, List.length_singleton, List.append_assoc] at moved
      exact moved inside
    simp only [positionsFrom] at found
    split at found
    · next starts =>
      rcases List.mem_cons.1 found with rfl | inside
      · rw [List.drop_left]
        exact List.isPrefixOf_iff_prefix.1 starts
      · exact later inside
    · exact later found

/-- A pattern that stands in the text at a place lies inside the text. -/
theorem add_length_le_of_prefix_drop (solid : pattern ≠ []) (found : pattern <+: text.drop place) :
    place + pattern.length ≤ text.length := by
  -- Something of the text is left at this place, so the place is within it.
  have positive := List.length_pos_iff.2 solid
  have fits := found.length_le
  rw [List.length_drop] at fits
  omega

/-- A text has as many bytes as characters at least. -/
theorem length_le_length_utf8 (text : Text) : text.length ≤ (utf8 text).length := by
  induction text with
  | nil => simp
  | cons c rest ih =>
    -- Every character takes a byte at least.
    have := c.utf8Size_pos
    rw [length_utf8_cons, List.length_cons]
    omega

/-- The offset of a place further on counts the bytes in between as well. -/
theorem offsetAt_add (text : Text) (place count : Nat) :
    offsetAt text (place + count) =
      offsetAt text place + (utf8 ((text.drop place).take count)).length := by
  rw [offsetAt, List.take_add, utf8_append, List.length_append, offsetAt]

/-- Behind a pattern in the text, the offset has grown by the bytes of the pattern. -/
theorem offsetAt_add_length (found : pattern <+: text.drop place) :
    offsetAt text (place + pattern.length) = offsetAt text place + (utf8 pattern).length := by
  rw [offsetAt_add, ← List.prefix_iff_eq_take.1 found]

/-- Places further on have greater offsets. -/
theorem offsetAt_lt (before : start < stop) (inside : stop ≤ text.length) :
    offsetAt text start < offsetAt text stop := by
  obtain ⟨count, rfl⟩ := Nat.exists_eq_add_of_le before.le
  -- At least one character lies in between, and so does at least one byte.
  have between : count ≤ (utf8 ((text.drop start).take count)).length :=
    calc count
      _ = ((text.drop start).take count).length := by
        rw [List.length_take, List.length_drop]
        omega
      _ ≤ (utf8 ((text.drop start).take count)).length := length_le_length_utf8 _
  rw [offsetAt_add]
  omega

/-- An offset at which a character of the text starts or the text ends. -/
def IsBoundary (text : Text) (offset : Nat) : Prop :=
  ∃ front, front <+: text ∧ (utf8 front).length = offset

/-- The text in front of an offset and behind it, unless it would divide a character or lie outside
the text. -/
def splitBytes? : Nat → Text → Option (Text × Text)
  | 0, text => some ([], text)
  | _ + 1, [] => none
  | offset + 1, c :: rest =>
    if c.utf8Size ≤ offset + 1 then
      (splitBytes? (offset + 1 - c.utf8Size) rest).map fun parts => (c :: parts.1, parts.2)
    else none

/-- A text can be split behind each of its fronts. -/
theorem splitBytes?_append (front rest : Text) :
    splitBytes? (utf8 front).length (front ++ rest) = some (front, rest) := by
  induction front with
  | nil => simp [splitBytes?, utf8]
  | cons c front ih =>
    have positive := c.utf8Size_pos
    obtain ⟨offset, size⟩ : ∃ offset, (utf8 (c :: front)).length = offset + 1 :=
      Nat.exists_eq_add_one.2 (by
        rw [length_utf8_cons]
        omega)
    -- The bytes of the first character are taken off, and those of the others are left.
    have counted := length_utf8_cons c front
    have fits : c.utf8Size ≤ offset + 1 := by omega
    have left : offset + 1 - c.utf8Size = (utf8 front).length := by omega
    rw [size, List.cons_append, splitBytes?, if_pos fits, left, ih, Option.map_some]

/-- A text can be split at an offset exactly behind a front that has this number of bytes. -/
theorem splitBytes?_eq_some_iff :
    splitBytes? offset text = some (front, rest) ↔
      text = front ++ rest ∧ (utf8 front).length = offset := by
  refine ⟨fun split => ?_, fun ⟨whole, size⟩ => whole ▸ size ▸ splitBytes?_append front rest⟩
  fun_induction splitBytes? offset text generalizing front with
  | case1 text =>
    cases split
    exact ⟨rfl, rfl⟩
  | case2 offset => cases split
  | case3 offset c text fits ih =>
    -- The first character belongs to the front with all of its bytes.
    obtain ⟨⟨first, behind⟩, later, same⟩ := Option.map_eq_some_iff.1 split
    obtain ⟨rfl, rfl⟩ : c :: first = front ∧ behind = rest := Prod.mk.inj same
    obtain ⟨rfl, size⟩ := ih later
    refine ⟨rfl, ?_⟩
    rw [length_utf8_cons]
    omega
  -- An offset inside of a character does not split the text.
  | case4 offset c text long => cases split

/-- The part of a text from one offset up to another, empty when the range is inverted; `none` when
the range is not one of whole characters of the text. -/
def cutBytes? (start stop : Nat) (text : Text) : Option Text :=
  if start ≤ stop then
    (splitBytes? stop text).bind fun parts => (splitBytes? start parts.1).map Prod.snd
  else some []

/-- Offsets that are not inverted cut out a part in front of which and up to the end of which the
text has these numbers of bytes. -/
theorem cutBytes?_eq_some_iff (ordered : start ≤ stop) :
    cutBytes? start stop text = some part ↔ ∃ front rest, text = front ++ part ++ rest ∧
      (utf8 front).length = start ∧ (utf8 (front ++ part)).length = stop := by
  rw [cutBytes?, if_pos ordered]
  constructor
  · intro cut
    -- The text is split at the end first, and what lies before the end is split at the start.
    obtain ⟨⟨before, rest⟩, last, within⟩ := Option.bind_eq_some_iff.1 cut
    obtain ⟨⟨front, behind⟩, first, rfl⟩ := Option.map_eq_some_iff.1 within
    obtain ⟨rfl, stops⟩ := splitBytes?_eq_some_iff.1 last
    obtain ⟨rfl, starts⟩ := splitBytes?_eq_some_iff.1 first
    exact ⟨front, rest, rfl, starts, stops⟩
  · rintro ⟨front, rest, rfl, rfl, rfl⟩
    rw [splitBytes?_append, Option.bind_some, splitBytes?_append, Option.map_some]

/-- Between the offsets of two places lies the part between these places. -/
theorem cutBytes?_offsetAt (first : start ≤ text.length) (last : stop ≤ text.length) :
    cutBytes? (offsetAt text start) (offsetAt text stop) text = some (slice start stop text) := by
  rcases Nat.lt_or_ge stop start with inverted | ordered
  · -- Places in the wrong order have offsets in the wrong order, and neither gives any text.
    have empty : slice start stop text = [] := by simp [slice, Nat.sub_eq_zero_of_le inverted.le]
    rw [cutBytes?, if_neg (Nat.not_le.2 (offsetAt_lt inverted first)), empty]
  · obtain ⟨count, rfl⟩ := Nat.exists_eq_add_of_le ordered
    -- Up to its end the part lies behind the front, and with what follows it makes the text.
    have before :
        text.take start ++ slice start (start + count) text = text.take (start + count) := by
      rw [slice, Nat.add_sub_cancel_left, List.take_add]
    have increasing : offsetAt text start ≤ offsetAt text (start + count) := by
      rw [offsetAt_add]
      omega
    refine (cutBytes?_eq_some_iff increasing).2
      ⟨text.take start, text.drop (start + count), ?_, rfl, ?_⟩
    · rw [before, List.take_append_drop]
    · rw [before, offsetAt]

end Text

end TaggedTests
