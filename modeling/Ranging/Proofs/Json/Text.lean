import Mathlib.Data.List.Nodup
import Ranging.Json.Parser
import Ranging.Json.Printer

/-!
# Texts of values

A value is read back from the text that it is written as, provided that its numbers are machine
integers and that no two members of one object have the same name. The readers are taken one after
another, from the characters of a string up to the members of an object: each takes what was written
off the head of a text and leaves what stands behind.
-/

namespace Ranging

namespace Json

/-! ## Strings -/

/-- The code unit of a control character is read back from its four digits. -/
theorem codeUnit?_hexDigits {n : Nat} (h : n < 0x20) (rest : List Char) :
    codeUnit? (hexDigits 4 n ++ rest) = some (n, rest) := by
  have hdigits : ∀ n < 0x20, hexNumber? (hexDigits 4 n) = some n := by decide
  change (hexNumber? (hexDigits 4 n)).map (fun n => (n, rest)) = _
  rw [hdigits n h]
  rfl

theorem escapedUnit?_hexDigits {c : Char} (h : c.toNat < 0x20) (rest : List Char) :
    escapedUnit? (hexDigits 4 c.toNat ++ rest) = some (c, rest) := by
  have hlow : c.toNat < 0xd800 := by omega
  rw [escapedUnit?, codeUnit?_hexDigits h]
  simp [hlow]

theorem stringTail?_escape {c : Char} {escape rest : List Char} (fuel : Nat)
    (h : escaped? escape = some (c, rest)) :
    stringTail? (fuel + 1) ('\\' :: escape) =
      (stringTail? fuel rest).map fun (tail, rest) => (c :: tail, rest) := by
  rw [stringTail?, h]
  simp only [Option.bind_eq_bind, Option.bind_some]
  cases stringTail? fuel rest <;> rfl

theorem stringTail?_plain {c : Char} (fuel : Nat) (text : List Char) (hquote : c ≠ '"')
    (hslash : c ≠ '\\') (hcontrol : ¬ c.toNat < 0x20) :
    stringTail? (fuel + 1) (c :: text) =
      (stringTail? fuel text).map fun (tail, rest) => (c :: tail, rest) := by
  rw [stringTail?]
  · rw [if_neg hcontrol]
    cases stringTail? fuel text <;> rfl
  · exact hquote
  · exact hslash

theorem stringTail?_escapeChar (c : Char) (fuel : Nat) (text : List Char) :
    stringTail? (fuel + 1) (escapeChar c ++ text) =
      (stringTail? fuel text).map fun (tail, rest) => (c :: tail, rest) := by
  by_cases hquote : c = '"'
  · subst hquote
    exact stringTail?_escape fuel rfl
  by_cases hslash : c = '\\'
  · subst hslash
    exact stringTail?_escape fuel rfl
  rw [escapeChar, if_neg hquote, if_neg hslash]
  by_cases hcontrol : c.toNat < 0x20
  · rw [if_pos hcontrol, List.append_assoc]
    exact stringTail?_escape fuel (escapedUnit?_hexDigits hcontrol text)
  · rw [if_neg hcontrol]
    exact stringTail?_plain fuel text hquote hslash hcontrol

/-- A text between quotes is read back from its written form. -/
theorem stringTail?_flatMap_escapeChar (chars rest : List Char) {fuel : Nat}
    (h : chars.length < fuel) :
    stringTail? fuel (chars.flatMap escapeChar ++ '"' :: rest) = some (chars, rest) := by
  induction chars generalizing fuel with
  | nil =>
      cases fuel with
      | zero => cases h
      | succ fuel => rfl
  | cons c chars ih =>
      cases fuel with
      | zero => cases h
      | succ fuel =>
          rw [List.flatMap_cons, List.append_assoc, stringTail?_escapeChar,
            ih (Nat.lt_of_succ_lt_succ h)]
          rfl

theorem length_le_flatMap_escapeChar (chars : List Char) :
    chars.length ≤ (chars.flatMap escapeChar).length := by
  induction chars with
  | nil => exact Nat.le_refl 0
  | cons c chars ih =>
      have hpos : 0 < (escapeChar c).length := by
        unfold escapeChar
        split_ifs <;> simp
      rw [List.flatMap_cons, List.length_append, List.length_cons]
      omega

/-- The fuel that a text between quotes is read with is enough. -/
theorem stringTail?_written (chars rest : List Char) :
    stringTail? ((chars.flatMap escapeChar ++ '"' :: rest).length + 1)
      (chars.flatMap escapeChar ++ '"' :: rest) = some (chars, rest) := by
  have hlength := length_le_flatMap_escapeChar chars
  refine stringTail?_flatMap_escapeChar chars rest ?_
  rw [List.length_append]
  omega

/-! ## Numbers -/

/-- What may stand behind a value: nothing, a comma or a closing bracket. -/
def Ends (rest : List Char) : Prop :=
  ∀ c ∈ rest.head?, c = ',' ∨ c = ']' ∨ c = '\x7d'

theorem Ends.head_ne {c : Char} {rest : List Char} (h : Ends (c :: rest)) :
    c.isDigit = false ∧ c ≠ '.' ∧ c ≠ 'e' ∧ c ≠ 'E' := by
  obtain rfl | rfl | rfl := h c rfl <;> decide

theorem digits?_append {digits rest : List Char} (hne : digits ≠ [])
    (hdigits : ∀ c ∈ digits, c.isDigit = true) (hrest : Ends rest) :
    digits? (digits ++ rest) = some (digits, rest) := by
  have hstop : rest.takeWhile Char.isDigit = [] ∧ rest.dropWhile Char.isDigit = rest := by
    cases rest with
    | nil => exact ⟨rfl, rfl⟩
    | cons c rest => simp [hrest.head_ne.1]
  have htake : (digits ++ rest).takeWhile Char.isDigit = digits := by
    rw [List.takeWhile_append_of_pos hdigits, hstop.1, List.append_nil]
  have hdrop : (digits ++ rest).dropWhile Char.isDigit = rest := by
    rw [List.dropWhile_append_of_pos hdigits, hstop.2]
  rw [digits?, htake, hdrop]
  exact if_neg (by simpa using hne)

theorem fraction?_of_ends {rest : List Char} (h : Ends rest) :
    fraction? rest = some (none, rest) := by
  unfold fraction?
  split
  · exact absurd rfl h.head_ne.2.1
  · rfl

theorem exponent?_of_ends {rest : List Char} (h : Ends rest) :
    exponent? rest = some (none, rest) := by
  unfold exponent?
  split
  · exact absurd rfl h.head_ne.2.2.1
  · exact absurd rfl h.head_ne.2.2.2
  · rfl

theorem ofDigits_toDigits (n : Nat) : ofDigits (Nat.toDigits 10 n) = n := by
  have hfold : ofDigits (Nat.toDigits 10 n) = Nat.ofDigitChars 10 (Nat.toDigits 10 n) 0 := by
    simp only [ofDigits, Nat.ofDigitChars_eq_foldl, Nat.mul_comm]
  rw [hfold, Nat.ofDigitChars_ten_toDigits]

/-- Only the number zero is written with a zero at its head. -/
theorem head?_toDigits_ne {n : Nat} (h : 0 < n) : (Nat.toDigits 10 n).head? ≠ some '0' := by
  induction n using Nat.strongRecOn with
  | ind n ih =>
      by_cases hn : n < 10
      · rw [Nat.toDigits_of_lt_base hn]
        simp [Nat.ne_of_gt h]
      · have hlt : n / 10 < n := by omega
        rw [Nat.toDigits_of_base_le (by decide) (by omega),
          List.head?_append_of_ne_nil _ Nat.toDigits_ne_nil]
        exact ih (n / 10) hlt (by omega)

theorem wholeDigits?_toDigits (n : Nat) {rest : List Char} (h : Ends rest) :
    wholeDigits? (Nat.toDigits 10 n ++ rest) = some (Nat.toDigits 10 n, rest) := by
  have hdigits : ∀ c ∈ Nat.toDigits 10 n, c.isDigit = true := fun c hc =>
    Nat.isDigit_of_mem_toDigits (by decide) (by decide) hc
  rw [wholeDigits?, digits?_append Nat.toDigits_ne_nil hdigits h]
  by_cases hn : n = 0
  · rw [hn]
    rfl
  · have := head?_toDigits_ne (Nat.pos_of_ne_zero hn)
    simp [this]

theorem exists_toDigits_eq_cons (n : Nat) :
    ∃ c digits, Nat.toDigits 10 n = c :: digits ∧ c.isDigit = true := by
  obtain ⟨c, digits, h⟩ := List.exists_cons_of_ne_nil (Nat.toDigits_ne_nil (n := n) (b := 10))
  have hc : c ∈ Nat.toDigits 10 n := h ▸ List.mem_cons_self
  exact ⟨c, digits, h, Nat.isDigit_of_mem_toDigits (by decide) (by decide) hc⟩

theorem number?_nat {n : Nat} (hn : n < UInt64.size) {rest : List Char} (h : Ends rest) :
    number? (Nat.toDigits 10 n ++ rest) = some (.int n, rest) := by
  have hhead : (Nat.toDigits 10 n).head? ≠ some '-' := by
    obtain ⟨c, digits, hdigits, hc⟩ := exists_toDigits_eq_cons n
    rw [hdigits]
    intro hminus
    cases hminus
    cases hc
  simp [number?, hhead, wholeDigits?_toDigits n h, fraction?_of_ends h, exponent?_of_ends h,
    integerValue?, ofDigits_toDigits, hn]

theorem number?_neg {n : Nat} (hpos : 0 < n) (hn : n ≤ 0x8000000000000000) {rest : List Char}
    (h : Ends rest) :
    number? ('-' :: (Nat.toDigits 10 n ++ rest)) = some (.int (-n), rest) := by
  have hzero : n ≠ 0 := Nat.ne_of_gt hpos
  have hfits : ¬ 0x8000000000000000 < n := Nat.not_lt.2 hn
  simp [number?, wholeDigits?_toDigits n h, fraction?_of_ends h, exponent?_of_ends h,
    integerValue?, ofDigits_toDigits, hzero, hfits]

/-- The integers that a number without point and exponent stands for. -/
def IsWord (n : Int) : Prop :=
  -0x8000000000000000 ≤ n ∧ n < UInt64.size

theorem skipBlanks_cons {c : Char} (h : isBlank c = false) (text : List Char) :
    skipBlanks (c :: text) = c :: text :=
  List.dropWhile_cons_of_neg (by simp [h])

/-- The first character of a written integer. -/
def BeginsNumber (c : Char) : Prop :=
  c.isDigit = true ∨ c = '-'

instance (c : Char) : Decidable (BeginsNumber c) :=
  inferInstanceAs (Decidable (_ ∨ _))

theorem BeginsNumber.isBlank {c : Char} (h : BeginsNumber c) : isBlank c = false := by
  rw [Bool.eq_false_iff]
  intro hblank
  simp only [Json.isBlank, Bool.or_eq_true, decide_eq_true_eq] at hblank
  obtain ((rfl | rfl) | rfl) | rfl := hblank <;> exact absurd h (by decide)

/-- Nothing but a number begins like one. -/
theorem value?_number {fuel : Nat} {c : Char} {text : List Char} (hc : BeginsNumber c) :
    value? (fuel + 1) (c :: text) = number? (c :: text) := by
  rw [value?, skipBlanks_cons hc.isBlank]
  split
  case h_7 => rfl
  -- The other cases ask for a character that begins no number.
  all_goals
    rename_i heq
    cases heq
    exact absurd hc (by decide)

theorem toList_toString_int (n : Int) :
    (toString n).toList =
      if 0 ≤ n then Nat.toDigits 10 n.toNat else '-' :: Nat.toDigits 10 (-n).toNat := by
  rw [Int.toString_eq_repr, Int.repr_eq_if]
  split
  · exact Nat.toList_repr
  · rw [String.toList_append, Nat.toList_repr]
    rfl

theorem exists_toString_int_eq_cons (n : Int) :
    ∃ c text, (toString n).toList = c :: text ∧ BeginsNumber c := by
  rw [toList_toString_int]
  split
  · obtain ⟨c, digits, hdigits, hc⟩ := exists_toDigits_eq_cons n.toNat
    exact ⟨c, digits, hdigits, .inl hc⟩
  · exact ⟨'-', _, rfl, .inr rfl⟩

theorem value?_int {n : Int} (hn : IsWord n) (fuel : Nat) {rest : List Char} (h : Ends rest) :
    value? (fuel + 1) ((toString n).toList ++ rest) = some (.int n, rest) := by
  obtain ⟨hlow, hhigh⟩ := hn
  rw [toList_toString_int]
  by_cases hsign : 0 ≤ n
  · have hnat : (n.toNat : Int) = n := Int.toNat_of_nonneg hsign
    obtain ⟨c, digits, hdigits, hc⟩ := exists_toDigits_eq_cons n.toNat
    have hread := number?_nat (by omega : n.toNat < UInt64.size) h
    rw [if_pos hsign]
    rw [hdigits, hnat] at hread
    rw [hdigits, List.cons_append, value?_number (.inl hc)]
    exact hread
  · have hnat : (((-n).toNat : Nat) : Int) = -n := Int.toNat_of_nonneg (by omega)
    have hread := number?_neg (by omega : 0 < (-n).toNat) (by omega) h
    rw [hnat, Int.neg_neg] at hread
    rw [if_neg hsign, List.cons_append, value?_number (.inr rfl)]
    exact hread

/-! ## Values -/

/-- The values that their texts stand for: integers fit a word, other numbers do not come up, and
no two members of an object have the same name. -/
inductive Value.Plain : Value → Prop
  | null : Plain .null
  | bool (b : Bool) : Plain (.bool b)
  | int (n : Int) (h : IsWord n) : Plain (.int n)
  | string (text : String) : Plain (.string text)
  | array (items : List Value) (h : ∀ item ∈ items, item.Plain) : Plain (.array items)
  | object (members : List (String × Value)) (hnames : (members.map Prod.fst).Nodup)
      (h : ∀ member ∈ members, member.2.Plain) : Plain (.object members)

/-- A value is read back from the text it is written as, and what stands behind is left over. -/
def ReadsBack (v : Value) : Prop :=
  ∀ (fuel : Nat) (rest : List Char), v.write.toList.length ≤ fuel → Ends rest →
    value? fuel (v.write.toList ++ rest) = some (v, rest)

theorem writeItems_eq_map (items : List Value) : writeItems items = items.map Value.write := by
  induction items with
  | nil => rw [writeItems, List.map_nil]
  | cons item items ih => rw [writeItems, List.map_cons, ih]

/-- A member as it is written. -/
def writeMember (member : String × Value) : String :=
  writeString member.1 ++ ":" ++ member.2.write

theorem writeMembers_eq_map (members : List (String × Value)) :
    writeMembers members = members.map writeMember := by
  induction members with
  | nil => rw [writeMembers, List.map_nil]
  | cons member members ih => rw [writeMembers, List.map_cons, ih, writeMember]

theorem toList_writeString (text : String) :
    (writeString text).toList = '"' :: (text.toList.flatMap escapeChar ++ ['"']) := by
  rw [writeString, String.toList_ofList]
  rfl

/-- Texts with commas between them. -/
def joined (texts : List String) : List Char :=
  (String.intercalate "," texts).toList

theorem joined_singleton (text : String) : joined [text] = text.toList := by
  rw [joined, String.intercalate_singleton]

theorem joined_cons_cons (text next : String) (texts : List String) :
    joined (text :: next :: texts) = text.toList ++ ',' :: joined (next :: texts) := by
  rw [joined, String.intercalate_cons_cons, String.toList_append, String.toList_append,
    List.append_assoc]
  rfl

theorem exists_joined_eq_append (text : String) (texts : List String) :
    ∃ rest, joined (text :: texts) = text.toList ++ rest := by
  cases texts with
  | nil => exact ⟨[], by rw [joined_singleton, List.append_nil]⟩
  | cons next texts => exact ⟨_, joined_cons_cons text next texts⟩

theorem toList_write_array (items : List Value) :
    (Value.array items).write.toList = '[' :: (joined (items.map Value.write) ++ [']']) := by
  rw [Value.write, writeItems_eq_map, String.toList_append, String.toList_append]
  rfl

theorem toList_writeMember (member : String × Value) :
    (writeMember member).toList =
      '"' :: (member.1.toList.flatMap escapeChar ++ '"' :: ':' :: member.2.write.toList) := by
  rw [writeMember, String.toList_append, String.toList_append, toList_writeString, List.cons_append,
    List.append_assoc, List.cons_append, List.append_assoc]
  rfl

theorem toList_write_object (members : List (String × Value)) :
    (Value.object members).write.toList =
      '\x7b' :: (joined (members.map writeMember) ++ ['\x7d']) := by
  rw [Value.write, writeMembers_eq_map, String.toList_append, String.toList_append]
  rfl

/-- No value begins with a blank or a closing bracket. -/
theorem exists_write_eq_cons (v : Value) :
    ∃ c text, v.write.toList = c :: text ∧ isBlank c = false ∧ c ≠ ']' := by
  cases v with
  | null => exact ⟨'n', _, rfl, rfl, by decide⟩
  | bool b => cases b <;> exact ⟨_, _, by rw [Value.write]; rfl, rfl, by decide⟩
  | int n =>
      obtain ⟨c, text, htext, hc⟩ := exists_toString_int_eq_cons n
      refine ⟨c, text, by rw [Value.write, htext], hc.isBlank, ?_⟩
      rintro rfl
      exact absurd hc (by decide)
  | float x => exact ⟨'"', _, by rw [Value.write, toList_writeString], rfl, by decide⟩
  | string text => exact ⟨'"', _, by rw [Value.write, toList_writeString], rfl, by decide⟩
  | array items => exact ⟨'[', _, toList_write_array items, rfl, by decide⟩
  | object members => exact ⟨'\x7b', _, toList_write_object members, rfl, by decide⟩

theorem ends_cons {c : Char} (h : c = ',' ∨ c = ']' ∨ c = '\x7d') (rest : List Char) :
    Ends (c :: rest) := by
  intro d hd
  cases hd
  exact h

/-! ### Arrays -/

theorem items?_of_comma {fuel : Nat} {text rest : List Char} {item : Value}
    (h : value? fuel text = some (item, ',' :: rest)) :
    items? (fuel + 1) text =
      (items? fuel rest).map fun (items, rest) => (item :: items, rest) := by
  rw [items?, h]
  simp only [Option.bind_eq_bind, Option.bind_some, skipBlanks_cons (rfl : isBlank ',' = false)]
  cases items? fuel rest <;> rfl

theorem items?_of_bracket {fuel : Nat} {text rest : List Char} {item : Value}
    (h : value? fuel text = some (item, ']' :: rest)) :
    items? (fuel + 1) text = some ([item], rest) := by
  rw [items?, h]
  rfl

/-- The items of an array are read back one by one. An item leaves one unit of fuel less to those
behind it, but also fewer characters. -/
theorem items?_joined (item : Value) (items : List Value)
    (hitems : ∀ i ∈ item :: items, ReadsBack i) {fuel : Nat} (rest : List Char)
    (hfuel : (joined ((item :: items).map Value.write)).length < fuel) :
    items? fuel (joined ((item :: items).map Value.write) ++ ']' :: rest) =
      some (item :: items, rest) := by
  induction items generalizing item fuel with
  | nil =>
      obtain _ | fuel := fuel
      · exact absurd hfuel (Nat.not_lt_zero _)
      rw [List.map_singleton, joined_singleton] at hfuel ⊢
      exact items?_of_bracket (hitems item List.mem_cons_self fuel _ (Nat.lt_succ_iff.1 hfuel)
        (ends_cons (.inr (.inl rfl)) rest))
  | cons next items ih =>
      obtain _ | fuel := fuel
      · exact absurd hfuel (Nat.not_lt_zero _)
      rw [List.map_cons, List.map_cons, joined_cons_cons, ← List.map_cons] at hfuel ⊢
      rw [List.length_append, List.length_cons] at hfuel
      have hitem := hitems item List.mem_cons_self fuel
        (',' :: (joined ((next :: items).map Value.write) ++ ']' :: rest)) (by omega)
        (ends_cons (.inl rfl) _)
      have hrest := ih next (fun i h => hitems i (List.mem_cons_of_mem _ h))
        (by omega : _ < fuel)
      rw [List.append_assoc, List.cons_append, items?_of_comma hitem, hrest]
      rfl

theorem value?_of_bracket (fuel : Nat) {c : Char} (text : List Char) (hblank : isBlank c = false)
    (hc : c ≠ ']') :
    value? (fuel + 1) ('[' :: c :: text) =
      (items? fuel (c :: text)).map fun (items, rest) => (.array items, rest) := by
  rw [value?, skipBlanks_cons rfl]
  simp only [skipBlanks_cons hblank]
  split
  · next heq =>
    cases heq
    exact absurd rfl hc
  · rfl

theorem readsBack_array {items : List Value} (h : ∀ item ∈ items, ReadsBack item) :
    ReadsBack (.array items) := by
  intro fuel rest hfuel _
  rw [toList_write_array] at hfuel ⊢
  rw [List.length_cons, List.length_append, List.length_singleton] at hfuel
  obtain _ | fuel := fuel
  · exact absurd hfuel (Nat.not_succ_le_zero _)
  rw [List.cons_append, List.append_assoc]
  cases items with
  | nil => rfl
  | cons item items =>
      have hitems := items?_joined item items h rest (by omega : _ < fuel)
      obtain ⟨tail, htail⟩ := exists_joined_eq_append item.write (items.map Value.write)
      obtain ⟨c, text, htext, hblank, hc⟩ := exists_write_eq_cons item
      rw [List.map_cons, htail, htext] at hitems ⊢
      rw [List.cons_append, List.cons_append, value?_of_bracket fuel _ hblank hc]
      exact congrArg _ hitems

/-! ### Objects -/

theorem put_of_notMem {name : String} {members : List (String × Value)}
    (h : name ∉ members.map Prod.fst) (v : Value) :
    Value.put name v members = members ++ [(name, v)] := by
  induction members with
  | nil => rfl
  | cons member members ih =>
      rw [List.map_cons, List.mem_cons, not_or] at h
      have hne : (member.1 == name) = false := beq_false_of_ne (Ne.symm h.1)
      rw [Value.put, hne, ih h.2]
      rfl

/-- A member is read back, and another one follows behind a comma. -/
theorem members?_writeMember {fuel : Nat} {member : String × Value} {c : Char} {rest : List Char}
    (hv : value? fuel (member.2.write.toList ++ c :: rest) = some (member.2, c :: rest))
    (hc : c = ',' ∨ c = '\x7d') (before : List (String × Value)) :
    members? (fuel + 1) before ((writeMember member).toList ++ c :: rest) =
      if c = ',' then members? fuel (Value.put member.1 member.2 before) rest
      else some (Value.put member.1 member.2 before, rest) := by
  have hname := stringTail?_written member.1.toList
    (':' :: (member.2.write.toList ++ c :: rest))
  have hcolon : after? [':'] (':' :: (member.2.write.toList ++ c :: rest)) =
      some (member.2.write.toList ++ c :: rest) := rfl
  rw [toList_writeMember, List.cons_append, List.append_assoc, List.cons_append, List.cons_append,
    members?, skipBlanks_cons rfl]
  simp only [hname, Option.bind_eq_bind, Option.bind_some,
    skipBlanks_cons (rfl : isBlank ':' = false), hcolon, hv, String.ofList_toList]
  obtain rfl | rfl := hc <;> rfl

theorem notMem_names {member : String × Value} {before members : List (String × Value)}
    (h : ((before ++ member :: members).map Prod.fst).Nodup) :
    member.1 ∉ before.map Prod.fst := by
  rw [List.map_append, List.nodup_append] at h
  intro hmem
  exact h.2.2 _ hmem _ List.mem_cons_self rfl

theorem length_write_lt_writeMember (member : String × Value) :
    member.2.write.toList.length < (writeMember member).toList.length := by
  rw [toList_writeMember, List.length_cons, List.length_append, List.length_cons, List.length_cons]
  omega

/-- The members of an object are read back one by one, behind those before. As no name comes up
twice, none of them replaces another. -/
theorem members?_joined (member : String × Value) (members before : List (String × Value))
    (hnames : ((before ++ member :: members).map Prod.fst).Nodup)
    (hmembers : ∀ m ∈ member :: members, ReadsBack m.2) {fuel : Nat} (rest : List Char)
    (hfuel : (joined ((member :: members).map writeMember)).length < fuel) :
    members? fuel before (joined ((member :: members).map writeMember) ++ '\x7d' :: rest) =
      some (before ++ member :: members, rest) := by
  induction members generalizing member before fuel with
  | nil =>
      obtain _ | fuel := fuel
      · exact absurd hfuel (Nat.not_lt_zero _)
      rw [List.map_singleton, joined_singleton] at hfuel ⊢
      have hlength := length_write_lt_writeMember member
      have hread := hmembers member List.mem_cons_self fuel ('\x7d' :: rest) (by omega)
        (ends_cons (.inr (.inr rfl)) rest)
      rw [members?_writeMember hread (.inr rfl), put_of_notMem (notMem_names hnames)]
      rfl
  | cons next members ih =>
      obtain _ | fuel := fuel
      · exact absurd hfuel (Nat.not_lt_zero _)
      rw [List.map_cons, List.map_cons, joined_cons_cons, ← List.map_cons] at hfuel ⊢
      rw [List.length_append, List.length_cons] at hfuel
      have hlength := length_write_lt_writeMember member
      have hread := hmembers member List.mem_cons_self fuel
        (',' :: (joined ((next :: members).map writeMember) ++ '\x7d' :: rest)) (by omega)
        (ends_cons (.inl rfl) _)
      have hrest := ih next (before ++ [member]) (by rwa [List.append_assoc])
        (fun m h => hmembers m (List.mem_cons_of_mem _ h)) (by omega : _ < fuel)
      rw [List.append_assoc, List.cons_append, members?_writeMember hread (.inl rfl),
        put_of_notMem (notMem_names hnames)]
      rw [List.append_assoc] at hrest
      exact hrest

theorem value?_of_brace (fuel : Nat) (text : List Char) :
    value? (fuel + 1) ('\x7b' :: '"' :: text) =
      (members? fuel [] ('"' :: text)).map fun (members, rest) => (.object members, rest) := by
  rw [value?, skipBlanks_cons rfl]
  simp only [skipBlanks_cons (rfl : isBlank '"' = false)]
  split
  · next heq => cases heq
  · rfl

theorem readsBack_object {members : List (String × Value)}
    (hnames : (members.map Prod.fst).Nodup) (h : ∀ member ∈ members, ReadsBack member.2) :
    ReadsBack (.object members) := by
  intro fuel rest hfuel _
  rw [toList_write_object] at hfuel ⊢
  rw [List.length_cons, List.length_append, List.length_singleton] at hfuel
  obtain _ | fuel := fuel
  · exact absurd hfuel (Nat.not_succ_le_zero _)
  rw [List.cons_append, List.append_assoc]
  cases members with
  | nil => rfl
  | cons member members =>
      have hmembers := members?_joined member members [] hnames h rest (by omega : _ < fuel)
      obtain ⟨tail, htail⟩ := exists_joined_eq_append (writeMember member)
        (members.map writeMember)
      rw [List.map_cons, htail, toList_writeMember] at hmembers ⊢
      rw [List.cons_append, List.cons_append, value?_of_brace]
      exact congrArg _ hmembers

/-! ## Reading back -/

/-- A value that is read back whatever the fuel is read back if there is any. -/
theorem readsBack_of_succ {v : Value}
    (h : ∀ (fuel : Nat) (rest : List Char), Ends rest →
      value? (fuel + 1) (v.write.toList ++ rest) = some (v, rest)) : ReadsBack v := by
  intro fuel rest hfuel hrest
  obtain ⟨c, text, htext, -⟩ := exists_write_eq_cons v
  rw [htext] at hfuel
  obtain ⟨fuel, rfl⟩ := Nat.exists_eq_add_of_le' (Nat.le_trans (Nat.le_add_left _ _) hfuel)
  exact h fuel rest hrest

theorem readsBack_string (text : String) : ReadsBack (.string text) := by
  refine readsBack_of_succ fun fuel rest _ => ?_
  have hread := stringTail?_written text.toList rest
  rw [Value.write, toList_writeString, List.cons_append, List.append_assoc, value?,
    skipBlanks_cons rfl]
  simp only [List.singleton_append, hread, Option.map_some, String.ofList_toList]

theorem Value.Plain.readsBack {v : Value} (h : v.Plain) : ReadsBack v := by
  induction h with
  | null => exact readsBack_of_succ fun _ _ _ => rfl
  | bool b => cases b <;> exact readsBack_of_succ fun _ _ _ => by rw [Value.write]; rfl
  | int n h =>
      refine readsBack_of_succ fun fuel rest hrest => ?_
      rw [Value.write]
      exact value?_int h fuel hrest
  | string text => exact readsBack_string text
  | array items _ ih => exact readsBack_array ih
  | object members hnames _ ih => exact readsBack_object hnames ih

/-- A plain value is what its text stands for. -/
theorem parse?_write {v : Value} (h : v.Plain) : parse? v.write = some v := by
  have hread := h.readsBack (v.write.toList.length + 1) [] (Nat.le_add_right _ _)
    (fun _ hc => by cases hc)
  rw [List.append_nil] at hread
  simp only [parse?, hread, Option.bind_eq_bind, Option.bind_some]
  rfl

end Json

end Ranging
