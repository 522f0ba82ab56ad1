/-
  CmlCloudManager.Foundation.JsonText
  ───────────────────────────────────
  **A JSON TEXT IS READ IN ONE WAY.**

  The text of a JSON value as a serializer that keeps to ASCII writes it: a string
  with short escapes, four hexadecimal digits and surrogate pairs, a comma and a
  blank between items and members, a colon and a blank after a key.  Every form here
  (`null`, strings, arrays, objects) says itself where it ends, so no text starts
  with two of them:

    • `escape_unique`   — of two characters as they are written,
    • `quoted_unique`   — of two strings up to their closing quote,
    • `write_unique`    — of two values,
    • `dumps_injective` — two values have one text only if they are one.

  The members of an object stand in the text as they are given; `sortKeys` puts
  them in the order of their keys.
-/
import CmlCloudManager.Foundation.StableSort
import Mathlib.Data.String.Basic

namespace CmlCloudManager.Foundation

/-- The JSON values that say where they end. -/
inductive Json where
  | null
  | str (s : String)
  | arr (items : List Json)
  | obj (members : List (String × Json))

namespace Json

/-! ## §1. The text. -/

/-- The mark that opens and closes a string. -/
abbrev quoteMark : Char := '\x22'

/-- The mark that starts an escape. -/
abbrev backslash : Char := '\x5c'

/-- The characters that have a letter of their own. -/
def shortEscapes : List (Char × Char) :=
  [(quoteMark, quoteMark), (backslash, backslash), ('\n', 'n'), ('\r', 'r'), ('\t', 't'),
    ('\x0c', 'f'), ('\x08', 'b')]

/-- Four hexadecimal digits. -/
def hex4 (n : Nat) : List Char :=
  [Nat.digitChar (n / 4096 % 16), Nat.digitChar (n / 256 % 16), Nat.digitChar (n / 16 % 16),
    Nat.digitChar (n % 16)]

/-- A unit of sixteen bits. -/
def unit (n : Nat) : List Char := backslash :: 'u' :: hex4 n

/-- The first unit of a pair. -/
def highSurrogate (c : Char) : Nat := 55296 + (c.toNat - 65536) / 1024

/-- The second unit of a pair. -/
def lowSurrogate (c : Char) : Nat := 56320 + (c.toNat - 65536) % 1024

/-- A character inside of a string. -/
def escape (c : Char) : List Char :=
  match shortEscapes.find? fun e => e.1 == c with
  | some e => [backslash, e.2]
  | none =>
      if 32 ≤ c.toNat ∧ c.toNat ≤ 126 then [c]
      else if c.toNat < 65536 then unit c.toNat
      else unit (highSurrogate c) ++ unit (lowSurrogate c)

/-- A string after its opening mark. -/
def quoted : List Char → List Char
  | [] => [quoteMark]
  | c :: cs => escape c ++ quoted cs

mutual

/-- The text of a value. -/
def write : Json → List Char
  | .null => ['n', 'u', 'l', 'l']
  | .str s => quoteMark :: quoted s.toList
  | .arr items => '[' :: writeItems items
  | .obj members => '\x7b' :: writeMembers members

/-- The items of an array, and its end. -/
def writeItems : List Json → List Char
  | [] => [']']
  | item :: items => write item ++ moreItems items

/-- The items that are not the first. -/
def moreItems : List Json → List Char
  | [] => [']']
  | item :: items => ',' :: ' ' :: (write item ++ moreItems items)

/-- The members of an object, and its end. -/
def writeMembers : List (String × Json) → List Char
  | [] => ['\x7d']
  | (key, value) :: members =>
      quoteMark :: (quoted key.toList ++ ':' :: ' ' :: (write value ++ moreMembers members))

/-- The members that are not the first. -/
def moreMembers : List (String × Json) → List Char
  | [] => ['\x7d']
  | (key, value) :: members =>
      ',' :: ' ' :: quoteMark
        :: (quoted key.toList ++ ':' :: ' ' :: (write value ++ moreMembers members))

end

/-- The text. -/
def dumps (json : Json) : String := String.ofList (write json)

/-! ## §2. Characters. -/

theorem digitChar_inj : ∀ a < 16, ∀ b < 16, Nat.digitChar a = Nat.digitChar b → a = b := by
  decide

/-- Four digits give the number back. -/
theorem hex4_inj {m n : Nat} (hm : m < 65536) (hn : n < 65536) (h : hex4 m = hex4 n) : m = n := by
  unfold hex4 at h
  obtain ⟨h3, h⟩ := List.cons.inj h
  obtain ⟨h2, h⟩ := List.cons.inj h
  obtain ⟨h1, h⟩ := List.cons.inj h
  obtain ⟨h0, -⟩ := List.cons.inj h
  have h3 := digitChar_inj _ (Nat.mod_lt _ (by decide)) _ (Nat.mod_lt _ (by decide)) h3
  have h2 := digitChar_inj _ (Nat.mod_lt _ (by decide)) _ (Nat.mod_lt _ (by decide)) h2
  have h1 := digitChar_inj _ (Nat.mod_lt _ (by decide)) _ (Nat.mod_lt _ (by decide)) h1
  have h0 := digitChar_inj _ (Nat.mod_lt _ (by decide)) _ (Nat.mod_lt _ (by decide)) h0
  omega

/-- A unit and what follows. -/
theorem unit_unique {m n : Nat} (hm : m < 65536) (hn : n < 65536) {r r' : List Char}
    (h : unit m ++ r = unit n ++ r') : m = n ∧ r = r' := by
  have hdigits : hex4 m ++ r = hex4 n ++ r' := (List.cons.inj (List.cons.inj h).2).2
  obtain ⟨hdigits, hrest⟩ := List.append_inj hdigits rfl
  exact ⟨hex4_inj hm hn hdigits, hrest⟩

/-- A letter belongs to one character, and none of them is the one of a unit. -/
theorem shortEscapes_letter :
    ∀ e ∈ shortEscapes, e.2 ≠ 'u' ∧ ∀ e' ∈ shortEscapes, e'.2 = e.2 → e'.1 = e.1 := by
  decide

/-- How a character is written. -/
inductive Written (c : Char) : List Char → Prop where
  | plain (hquote : c ≠ quoteMark) (hslash : c ≠ backslash) : Written c [c]
  | short {letter : Char} (h : (c, letter) ∈ shortEscapes) : Written c [backslash, letter]
  | single (h : c.toNat < 65536) : Written c (unit c.toNat)
  | pair (h : 65536 ≤ c.toNat) : Written c (unit (highSurrogate c) ++ unit (lowSurrogate c))

theorem escape_written (c : Char) : Written c (escape c) := by
  unfold escape
  split
  next e he =>
    obtain rfl : e.1 = c := by simpa using List.find?_some he
    exact .short (List.mem_of_find?_eq_some he)
  next hnone =>
    have hno : ∀ e ∈ shortEscapes, e.1 ≠ c := by simpa using hnone
    split
    next =>
      have hquote := hno (quoteMark, quoteMark) (by decide)
      have hslash := hno (backslash, backslash) (by decide)
      exact .plain hquote.symm hslash.symm
    next =>
      split
      next hsingle => exact .single hsingle
      next hpair => exact .pair (Nat.le_of_not_lt hpair)

theorem highSurrogate_lt (c : Char) : highSurrogate c < 65536 := by
  have hvalid : c.toNat < 55296 ∨ 57343 < c.toNat ∧ c.toNat < 1114112 := c.valid
  unfold highSurrogate
  omega

theorem lowSurrogate_lt (c : Char) : lowSurrogate c < 65536 := by
  unfold lowSurrogate
  omega

/-- The first unit of a pair is the code of no character. -/
theorem toNat_ne_highSurrogate (c c' : Char) : c.toNat ≠ highSurrogate c' := by
  have hvalid : c.toNat < 55296 ∨ 57343 < c.toNat ∧ c.toNat < 1114112 := c.valid
  have hvalid' : c'.toNat < 55296 ∨ 57343 < c'.toNat ∧ c'.toNat < 1114112 := c'.valid
  unfold highSurrogate
  omega

/-- The two units give the character back. -/
theorem surrogates_inj {c c' : Char} (h : 65536 ≤ c.toNat) (h' : 65536 ≤ c'.toNat)
    (hhigh : highSurrogate c = highSurrogate c') (hlow : lowSurrogate c = lowSurrogate c') :
    c = c' := by
  unfold highSurrogate at hhigh
  unfold lowSurrogate at hlow
  refine Char.toNat_inj.mp ?_
  omega

/-- An escape starts with its mark, and no character but itself is written so. -/
theorem Written.head {c : Char} {text : List Char} (h : Written c text) :
    text = [c] ∧ c ≠ quoteMark ∧ c ≠ backslash ∨ ∃ rest, text = backslash :: rest := by
  cases h with
  | plain hquote hslash => exact .inl ⟨rfl, hquote, hslash⟩
  | short h => exact .inr ⟨_, rfl⟩
  | single h => exact .inr ⟨_, rfl⟩
  | pair h => exact .inr ⟨_, rfl⟩

/-- A character is written in one way, so the text that starts with it tells which one it is. -/
theorem Written.unique {c c' : Char} {text text' r r' : List Char} (h : Written c text)
    (h' : Written c' text') (heq : text ++ r = text' ++ r') : c = c' ∧ r = r' := by
  -- a short escape and a unit differ in the letter after the backslash
  have hnotUnit : ∀ {c letter : Char} {n : Nat} {r r' : List Char}, (c, letter) ∈ shortEscapes →
      [backslash, letter] ++ r ≠ unit n ++ r' := fun hmem heq =>
    (shortEscapes_letter _ hmem).1 (List.cons.inj (List.cons.inj heq).2).1
  cases h with
  | plain hquote hslash =>
      rcases h'.head with ⟨rfl, -, -⟩ | ⟨rest, rfl⟩
      · exact List.cons.inj heq
      · exact absurd (List.cons.inj heq).1 hslash
  | short hmem =>
      cases h' with
      | plain hquote hslash => exact absurd (List.cons.inj heq).1.symm hslash
      | short hmem' =>
          obtain ⟨hletter, hrest⟩ := List.cons.inj (List.cons.inj heq).2
          exact ⟨((shortEscapes_letter _ hmem).2 _ hmem' hletter.symm).symm, hrest⟩
      | single hlt => exact absurd heq (hnotUnit hmem)
      | pair hle =>
          rw [List.append_assoc] at heq
          exact absurd heq (hnotUnit hmem)
  | single hlt =>
      cases h' with
      | plain hquote hslash => exact absurd (List.cons.inj heq).1.symm hslash
      | short hmem' => exact absurd heq.symm (hnotUnit hmem')
      | single hlt' =>
          obtain ⟨hcode, hrest⟩ := unit_unique hlt hlt' heq
          exact ⟨Char.toNat_inj.mp hcode, hrest⟩
      | pair hle' =>
          rw [List.append_assoc] at heq
          obtain ⟨hcode, -⟩ := unit_unique hlt (highSurrogate_lt c') heq
          exact absurd hcode (toNat_ne_highSurrogate c c')
  | pair hle =>
      rw [List.append_assoc] at heq
      cases h' with
      | plain hquote hslash => exact absurd (List.cons.inj heq).1.symm hslash
      | short hmem' => exact absurd heq.symm (hnotUnit hmem')
      | single hlt' =>
          obtain ⟨hcode, -⟩ := unit_unique (highSurrogate_lt c) hlt' heq
          exact absurd hcode.symm (toNat_ne_highSurrogate c' c)
      | pair hle' =>
          rw [List.append_assoc] at heq
          obtain ⟨hhigh, hsecond⟩ := unit_unique (highSurrogate_lt c) (highSurrogate_lt c') heq
          obtain ⟨hlow, hrest⟩ := unit_unique (lowSurrogate_lt c) (lowSurrogate_lt c') hsecond
          exact ⟨surrogates_inj hle hle' hhigh hlow, hrest⟩

/-- **Two characters** that one text starts with are one. -/
theorem escape_unique {c c' : Char} {r r' : List Char} (h : escape c ++ r = escape c' ++ r') :
    c = c' ∧ r = r' :=
  (escape_written c).unique (escape_written c') h

/-- No character is written like the closing mark. -/
theorem escape_ne_quoteMark (c : Char) (r r' : List Char) : escape c ++ r ≠ quoteMark :: r' := by
  intro heq
  rcases (escape_written c).head with ⟨htext, hquote, -⟩ | ⟨rest, htext⟩
  · rw [htext] at heq
    exact hquote (List.cons.inj heq).1
  · rw [htext] at heq
    exact absurd (List.cons.inj heq).1 (by decide)

theorem quoted_cons_append (c : Char) (cs r : List Char) :
    quoted (c :: cs) ++ r = escape c ++ (quoted cs ++ r) :=
  List.append_assoc ..

/-- **Two strings** that one text starts with are one. -/
theorem quoted_unique :
    ∀ (cs cs' : List Char) {r r' : List Char}, quoted cs ++ r = quoted cs' ++ r' →
      cs = cs' ∧ r = r'
  | [], [], r, r', h => ⟨rfl, (List.cons.inj h).2⟩
  | [], c' :: cs', r, r', h => by
      rw [quoted_cons_append] at h
      exact absurd h.symm (escape_ne_quoteMark c' _ r)
  | c :: cs, [], r, r', h => by
      rw [quoted_cons_append] at h
      exact absurd h (escape_ne_quoteMark c _ r')
  | c :: cs, c' :: cs', r, r', h => by
      rw [quoted_cons_append, quoted_cons_append] at h
      obtain ⟨hhead, htail⟩ := escape_unique h
      obtain ⟨hcs, hrest⟩ := quoted_unique cs cs' htail
      exact ⟨congrArg₂ List.cons hhead hcs, hrest⟩

/-! ## §3. Values. -/

/-- No value starts like the end of an array. -/
theorem write_ne_bracket (json : Json) (r r' : List Char) : write json ++ r ≠ ']' :: r' := by
  cases json <;> intro h <;> exact absurd (List.cons.inj h).1 (by decide)

theorem writeItems_cons_append (item : Json) (items : List Json) (r : List Char) :
    writeItems (item :: items) ++ r = write item ++ (moreItems items ++ r) :=
  List.append_assoc ..

theorem moreItems_cons_append (item : Json) (items : List Json) (r : List Char) :
    moreItems (item :: items) ++ r = ',' :: ' ' :: (write item ++ (moreItems items ++ r)) :=
  congrArg (fun text => ',' :: ' ' :: text) (List.append_assoc ..)

/-- A member and what follows. -/
theorem member_append (key : String) (value : Json) (rest r : List Char) :
    quoteMark :: (quoted key.toList ++ ':' :: ' ' :: (write value ++ rest)) ++ r
      = quoteMark :: (quoted key.toList ++ ':' :: ' ' :: (write value ++ (rest ++ r))) := by
  simp only [List.cons_append, List.append_assoc]

theorem writeMembers_cons_append (key : String) (value : Json) (members : List (String × Json))
    (r : List Char) :
    writeMembers ((key, value) :: members) ++ r
      = quoteMark :: (quoted key.toList
          ++ ':' :: ' ' :: (write value ++ (moreMembers members ++ r))) :=
  member_append ..

theorem moreMembers_cons_append (key : String) (value : Json) (members : List (String × Json))
    (r : List Char) :
    moreMembers ((key, value) :: members) ++ r
      = ',' :: ' ' :: quoteMark :: (quoted key.toList
          ++ ':' :: ' ' :: (write value ++ (moreMembers members ++ r))) :=
  congrArg (fun text => ',' :: ' ' :: text) (member_append ..)

/-- Two keys with what follows them. -/
theorem key_unique {key key' : String} {text text' : List Char}
    (h : quoted key.toList ++ ':' :: ' ' :: text = quoted key'.toList ++ ':' :: ' ' :: text') :
    key = key' ∧ text = text' := by
  obtain ⟨hkey, hrest⟩ := quoted_unique _ _ h
  exact ⟨String.toList_inj.mp hkey, (List.cons.inj (List.cons.inj hrest).2).2⟩

mutual

/-- **Two values** that one text starts with are one. -/
theorem write_unique :
    ∀ (json json' : Json) {r r' : List Char}, write json ++ r = write json' ++ r' →
      json = json' ∧ r = r'
  | .null, json', r, r', h => by
      cases json' with
      | null => exact ⟨rfl, List.append_cancel_left h⟩
      | str s | arr items | obj members => exact absurd (List.cons.inj h).1 (by decide)
  | .str s, json', r, r', h => by
      cases json' with
      | str s' =>
          obtain ⟨hs, hrest⟩ := quoted_unique _ _ (List.cons.inj h).2
          exact ⟨congrArg Json.str (String.toList_inj.mp hs), hrest⟩
      | null | arr items | obj members => exact absurd (List.cons.inj h).1 (by decide)
  | .arr items, json', r, r', h => by
      cases json' with
      | arr items' =>
          obtain ⟨hitems, hrest⟩ := writeItems_unique items items' (List.cons.inj h).2
          exact ⟨congrArg Json.arr hitems, hrest⟩
      | null | str s | obj members => exact absurd (List.cons.inj h).1 (by decide)
  | .obj members, json', r, r', h => by
      cases json' with
      | obj members' =>
          obtain ⟨hmembers, hrest⟩ := writeMembers_unique members members' (List.cons.inj h).2
          exact ⟨congrArg Json.obj hmembers, hrest⟩
      | null | str s | arr items => exact absurd (List.cons.inj h).1 (by decide)

theorem writeItems_unique :
    ∀ (items items' : List Json) {r r' : List Char},
      writeItems items ++ r = writeItems items' ++ r' → items = items' ∧ r = r'
  | [], [], r, r', h => ⟨rfl, (List.cons.inj h).2⟩
  | [], item' :: items', r, r', h => by
      rw [writeItems_cons_append] at h
      exact absurd h.symm (write_ne_bracket item' _ r)
  | item :: items, [], r, r', h => by
      rw [writeItems_cons_append] at h
      exact absurd h (write_ne_bracket item _ r')
  | item :: items, item' :: items', r, r', h => by
      rw [writeItems_cons_append, writeItems_cons_append] at h
      obtain ⟨hitem, htail⟩ := write_unique item item' h
      obtain ⟨hitems, hrest⟩ := moreItems_unique items items' htail
      exact ⟨congrArg₂ List.cons hitem hitems, hrest⟩

theorem moreItems_unique :
    ∀ (items items' : List Json) {r r' : List Char},
      moreItems items ++ r = moreItems items' ++ r' → items = items' ∧ r = r'
  | [], [], r, r', h => ⟨rfl, (List.cons.inj h).2⟩
  | [], item' :: items', r, r', h => absurd (List.cons.inj h).1 (by decide)
  | item :: items, [], r, r', h => absurd (List.cons.inj h).1 (by decide)
  | item :: items, item' :: items', r, r', h => by
      rw [moreItems_cons_append, moreItems_cons_append] at h
      have hitems := (List.cons.inj (List.cons.inj h).2).2
      obtain ⟨hitem, htail⟩ := write_unique item item' hitems
      obtain ⟨hitems, hrest⟩ := moreItems_unique items items' htail
      exact ⟨congrArg₂ List.cons hitem hitems, hrest⟩

theorem writeMembers_unique :
    ∀ (members members' : List (String × Json)) {r r' : List Char},
      writeMembers members ++ r = writeMembers members' ++ r' → members = members' ∧ r = r'
  | [], [], r, r', h => ⟨rfl, (List.cons.inj h).2⟩
  | [], (key', value') :: members', r, r', h => absurd (List.cons.inj h).1 (by decide)
  | (key, value) :: members, [], r, r', h => absurd (List.cons.inj h).1 (by decide)
  | (key, value) :: members, (key', value') :: members', r, r', h => by
      rw [writeMembers_cons_append, writeMembers_cons_append] at h
      obtain ⟨hkey, hvalues⟩ := key_unique (List.cons.inj h).2
      obtain ⟨hvalue, htail⟩ := write_unique value value' hvalues
      obtain ⟨hmembers, hrest⟩ := moreMembers_unique members members' htail
      exact ⟨congrArg₂ List.cons (Prod.ext hkey hvalue) hmembers, hrest⟩

theorem moreMembers_unique :
    ∀ (members members' : List (String × Json)) {r r' : List Char},
      moreMembers members ++ r = moreMembers members' ++ r' → members = members' ∧ r = r'
  | [], [], r, r', h => ⟨rfl, (List.cons.inj h).2⟩
  | [], (key', value') :: members', r, r', h => absurd (List.cons.inj h).1 (by decide)
  | (key, value) :: members, [], r, r', h => absurd (List.cons.inj h).1 (by decide)
  | (key, value) :: members, (key', value') :: members', r, r', h => by
      rw [moreMembers_cons_append, moreMembers_cons_append] at h
      have hkeys := (List.cons.inj (List.cons.inj (List.cons.inj h).2).2).2
      obtain ⟨hkey, hvalues⟩ := key_unique hkeys
      obtain ⟨hvalue, htail⟩ := write_unique value value' hvalues
      obtain ⟨hmembers, hrest⟩ := moreMembers_unique members members' htail
      exact ⟨congrArg₂ List.cons (Prod.ext hkey hvalue) hmembers, hrest⟩

end

/-- **The text of a value** is the text of no other. -/
theorem dumps_injective : Function.Injective dumps := by
  intro json json' h
  have htext : write json ++ [] = write json' ++ [] := by
    rw [String.ofList_injective h]
  exact (write_unique json json' htext).1

/-! ## §4. Sorted members. -/

/-- The members in the order of their keys. -/
def sortKeys (members : List (String × Json)) : List (String × Json) :=
  sortByKey Prod.fst members

/-- Members that are given under the same keys in the same order. -/
theorem sortKeys_inj {members members' : List (String × Json)}
    (h : sortKeys members = sortKeys members')
    (hkeys : members.map Prod.fst = members'.map Prod.fst) : members = members' :=
  eq_of_ofKey_of_keys hkeys ((sortByKey_eq_iff _ _).mp h)

end Json

end CmlCloudManager.Foundation
