import AvSession.Lib.Find
import AvSession.Lib.Loop

/-!
# MAC addresses in softbus messages

Messages are documents that are printed to text. A scan of the text is to mask the MAC addresses: it
looks for the key with a quote, a colon and a quote behind it. The printer puts a tab between the
colon and the value.

* `getEncryptAddr`, `anonymizePass`, `anonymizeMacAddressInSoftBusMsg` — the scan.
* `Format`, `print`, `transferJsonToStr` — documents and how they are printed.
* `Seen` — how much of a quote, a colon and a quote after a letter a text ends with.
* `MacMasked` — documents that differ behind the mask alone are masked to one text.
* `macMasked_iff` — the documents of which this holds.

A text is the list of its bytes, each written as the character with that code.
-/

namespace AvSession.Softbus

open AvSession.Lib

abbrev Text := List Char

/-! ## The scan -/

section Scan

/-- Source: migrate_avsession_constant.h -/
def AUDIO_MAC_ADDRESS : Text := "AudioMacAddress".toList

def addressStrLen : ℕ := 17

def startPos : ℕ := 6

def endPos : ℕ := 13

/-- Source: softbus_session_utils.h, `SoftbusSessionUtils::GetEncryptAddr` -/
def getEncryptAddr (addr : Text) : Text :=
  if addr = [] ∨ addr.length ≠ addressStrLen then []
  else
    let tmp := "**:**:**:**:**:**".toList
    addr.take startPos ++ (tmp.drop startPos).take (endPos + 1 - startPos) ++
      addr.drop (endPos + 1)

def macKey : Text := '"' :: AUDIO_MAC_ADDRESS ++ "\":\"".toList

def endKey : Text := ['"']

/-- A pass of the loop: the text before the place where the next search begins, and the text from
there on. Source: softbus_session_utils.h,
`SoftbusSessionUtils::AnonymizeMacAddressInSoftBusMsg` -/
def anonymizePass : Text × Text → Option (Text × Text)
  | (before, rest) =>
    (find macKey rest).map fun n =>
      let before := before ++ rest.take (n + macKey.length)
      let rest := rest.drop (n + macKey.length)
      match find endKey rest with
      | some endPos => (before, getEncryptAddr (rest.take endPos) ++ rest.drop endPos)
      | none => (before, rest)

/-- `none` if the loop takes more passes than `fuel`. Source: softbus_session_utils.h,
`SoftbusSessionUtils::AnonymizeMacAddressInSoftBusMsg` -/
def anonymizeMacAddressInSoftBusMsg (fuel : ℕ) (input : Text) : Option Text :=
  (loop anonymizePass fuel ([], input)).map fun s => s.1 ++ s.2

/-- The scan of a text ends, with an output. -/
def Anonymizes (input output : Text) : Prop :=
  ∃ fuel, anonymizeMacAddressInSoftBusMsg fuel input = some output

variable {addr : Text}

/-- Masking makes no address longer. -/
theorem length_getEncryptAddr_le (addr : Text) : (getEncryptAddr addr).length ≤ addr.length := by
  rw [getEncryptAddr]
  split_ifs with h
  · simp
  · rw [not_or, not_not] at h
    simp [h.2, addressStrLen, startPos, endPos]

/-- A masked address has the length of an address. -/
theorem length_getEncryptAddr (h : addr.length = addressStrLen) :
    (getEncryptAddr addr).length = addressStrLen := by
  have hne : addr ≠ [] := by
    rintro rfl
    cases h
  rw [getEncryptAddr, if_neg (by simp [hne, h])]
  simp [h, addressStrLen, startPos, endPos]

/-- The text that is still to be searched gets shorter with each pass. -/
theorem length_anonymizePass {s s' : Text × Text} (h : anonymizePass s = some s') :
    s'.2.length < s.2.length := by
  obtain ⟨before, rest⟩ := s
  obtain ⟨n, hn, rfl⟩ := Option.map_eq_some_iff.mp h
  have hle := add_length_le_of_find (by decide) hn
  have hlen : macKey.length = 19 := by decide
  dsimp only
  rcases find endKey (rest.drop (n + macKey.length)) with _ | m
  · show (rest.drop (n + macKey.length)).length < rest.length
    rw [List.length_drop]
    omega
  · show (getEncryptAddr ((rest.drop (n + macKey.length)).take m) ++
      (rest.drop (n + macKey.length)).drop m).length < rest.length
    have hshort := length_getEncryptAddr_le ((rest.drop (n + macKey.length)).take m)
    rw [List.length_take, List.length_drop] at hshort
    rw [List.length_append, List.length_drop, List.length_drop]
    omega

/-- **The scan ends** on every text. -/
theorem exists_anonymizes (input : Text) : ∃ output, Anonymizes input output := by
  obtain ⟨s, fuel, hend⟩ := exists_ends_of_measure (fun s : Text × Text => s.2.length)
    (fun _ _ => length_anonymizePass) ([], input)
  exact ⟨s.1 ++ s.2, fuel, by rw [anonymizeMacAddressInSoftBusMsg, hend]; rfl⟩

/-- A text without the key is left as it is. -/
theorem anonymizes_iff_of_no_key {input output : Text} (h : ¬ macKey <:+: input) :
    Anonymizes input output ↔ output = input := by
  have hpass : anonymizePass ([], input) = none := by
    rw [anonymizePass, find_eq_none_iff.mpr h]
    rfl
  constructor
  · rintro ⟨fuel, hend⟩
    obtain ⟨s, hs, rfl⟩ := Option.map_eq_some_iff.mp hend
    rw [(ends_iff_of_none hpass).mp ⟨fuel, hs⟩]
    rfl
  · rintro rfl
    exact ⟨1, by rw [anonymizeMacAddressInSoftBusMsg, loop_of_none hpass]; rfl⟩

end Scan

/-! ## Documents and how they are printed -/

section Print

/-- The text of a number has no quotes. -/
structure NumberText where
  text : Text
  no_quote : '"' ∉ text

/-- A cJSON document; a number is known by its text. -/
inductive Doc
  | null
  | bool (b : Bool)
  | number (n : NumberText)
  | string (s : Text)
  | array (items : List Doc)
  | object (members : List (Text × Doc))

/-- The text around items and members: blanks, commas, brackets and braces. -/
structure Layout where
  text : Text
  ne_nil : text ≠ []
  plain : ∀ c ∈ text, c ≠ '"' ∧ c ≠ ':' ∧ c ≠ 's'

/-- What is assumed of the formatted form that `cJSON_Print` emits. -/
structure Format where
  /-- A character of a string: itself, or a backslash and what stands for it. -/
  escape : Char → Text
  escape_cases : ∀ c, (escape c = [c] ∧ c ≠ '"') ∨
    ∃ d code, escape c = '\\' :: d :: code ∧ '"' ∉ code
  escape_injective : Function.Injective escape
  arrayStart : Layout
  itemEnd : Layout
  arrayEnd : Layout
  objectStart : Layout
  /-- The tabs before a key of an object at some depth. -/
  indent : ℕ → Layout
  /-- What follows a member, for the last one and for the others. -/
  memberEnd : Bool → Layout
  objectEnd : ℕ → Layout

variable (f : Format)

/-- A string in its quotes. -/
def quoted (s : Text) : Text := '"' :: s.flatMap f.escape ++ ['"']

mutual

/-- The text of a document at some depth, as `cJSON_Print` emits it. -/
def print (depth : ℕ) : Doc → Text
  | .null => "null".toList
  | .bool b => if b then "true".toList else "false".toList
  | .number n => n.text
  | .string s => quoted f s
  | .array items => f.arrayStart.text ++ printItems depth items ++ f.arrayEnd.text
  | .object members =>
    f.objectStart.text ++ printMembers depth members ++ (f.objectEnd depth).text

def printItems (depth : ℕ) : List Doc → Text
  | [] => []
  | item :: items =>
    print (depth + 1) item ++
      ((if items.isEmpty then [] else f.itemEnd.text) ++ printItems depth items)

/-- A tab stands between the colon and the value. -/
def printMembers (depth : ℕ) : List (Text × Doc) → Text
  | [] => []
  | (key, value) :: members =>
    (f.indent depth).text ++ quoted f key ++ [':', '\t'] ++
      (print (depth + 1) value ++
        ((f.memberEnd members.isEmpty).text ++ printMembers depth members))

end

/-- Source: softbus_session_utils.h, `SoftbusSessionUtils::TransferJsonToStr` -/
def transferJsonToStr (jsonValue : Option Doc) (jsonStr : Text) : Text :=
  match jsonValue with
  | none => jsonStr ++ "ERR_JSON".toList
  | some doc => jsonStr ++ print f 0 doc

end Print

/-! ## What a text ends with -/

section Seen

/-- How much of a letter `s`, a quote, a colon and a quote the text ends with. -/
inductive Seen
  | nothing
  | letter
  | quote
  | colon
  | found
deriving DecidableEq

namespace Seen

def next : Seen → Char → Seen
  | found, _ => found
  | q, c =>
    if c = 's' then letter
    else if c = '"' then
      if q = letter then quote else if q = colon then found else nothing
    else if c = ':' then if q = quote then colon else nothing
    else nothing

/-- A text whose next quote is an opening one or escaped, or the closing one of a string. -/
def Inside (q : Seen) : Prop := q = nothing ∨ q = letter

/-- A text that a value ends. -/
def Over (q : Seen) : Prop := q = nothing ∨ q = letter ∨ q = quote

variable {q : Seen} {t : Text} {c : Char}

/-- Where a string may go on a value may end. -/
theorem Inside.over (h : Inside q) : Over q := by
  rcases h with rfl | rfl
  · exact Or.inl rfl
  · exact Or.inr (Or.inl rfl)

/-- Any character but a quote stays inside. -/
theorem Inside.next (h : Inside q) (hc : c ≠ '"') : Inside (q.next c) := by
  by_cases hs : c = 's'
  · rcases h with rfl | rfl <;> simp [Seen.next, Inside, hs]
  · rcases h with rfl | rfl <;> simp [Seen.next, Inside, hc, hs]

/-- So does a text without a quote. -/
theorem Inside.foldl (h : Inside q) (ht : '"' ∉ t) : Inside (t.foldl Seen.next q) := by
  induction t generalizing q with
  | nil => exact h
  | cons c t ih =>
    rw [List.mem_cons, not_or] at ht
    exact ih (h.next fun hc => ht.1 hc.symm) ht.2

/-- A character of a string leaves the text inside of it. -/
theorem Inside.escape (f : Format) (h : Inside q) (c : Char) :
    Inside ((f.escape c).foldl Seen.next q) := by
  rcases f.escape_cases c with ⟨hc, hne⟩ | ⟨d, code, hc, hcode⟩
  · rw [hc]
    exact h.next hne
  · have hback : q.next '\\' = nothing := by
      rcases h with rfl | rfl <;> rfl
    rw [hc, List.foldl_cons, List.foldl_cons, hback]
    apply Inside.foldl _ hcode
    by_cases hd : d = '"'
    · subst hd
      exact Or.inl rfl
    · exact Inside.next (Or.inl rfl) hd

/-- So does every escaped text. -/
theorem Inside.flatMap (f : Format) (h : Inside q) (s : Text) :
    Inside ((s.flatMap f.escape).foldl Seen.next q) := by
  induction s generalizing q with
  | nil => exact h
  | cons c s ih =>
    rw [List.flatMap_cons, List.foldl_append]
    exact ih (h.escape f c)

/-- A quoted text ends as a value does. -/
theorem over_quoted (f : Format) (s : Text) : Over ((quoted f s).foldl Seen.next nothing) := by
  rw [quoted, List.foldl_append, List.foldl_cons]
  have hinside : Inside ((s.flatMap f.escape).foldl Seen.next nothing) :=
    Inside.flatMap f (Or.inl rfl) s
  show Over ((List.foldl Seen.next nothing (s.flatMap f.escape)).next '"')
  rcases hinside with hq | hq
  · rw [hq]
    exact Or.inl rfl
  · rw [hq]
    exact Or.inr (Or.inr rfl)

/-- A character of no key's end leaves nothing of it behind. -/
theorem Over.next_plain (h : Over q) (hc : c ≠ '"' ∧ c ≠ ':' ∧ c ≠ 's') :
    q.next c = nothing := by
  rcases h with rfl | rfl | rfl <;> simp [Seen.next, hc]

/-- Between the values nothing is left to watch. -/
theorem Over.foldl_layout (h : Over q) (l : Layout) : l.text.foldl Seen.next q = nothing := by
  obtain ⟨text, hne, hplain⟩ := l
  dsimp only
  induction text generalizing q with
  | nil => exact absurd rfl hne
  | cons c text ih =>
    obtain ⟨hc, hrest⟩ := List.forall_mem_cons.mp hplain
    rw [List.foldl_cons, h.next_plain hc]
    rcases text with _ | ⟨d, text⟩
    · rfl
    · exact ih (Or.inl rfl) (List.cons_ne_nil _ _) hrest

/-- A key is followed by a colon and a tab. -/
theorem foldl_key (f : Format) (key : Text) :
    (quoted f key ++ [':', '\t']).foldl Seen.next nothing = nothing := by
  rw [List.foldl_append]
  rcases over_quoted f key with hq | hq | hq <;> rw [hq] <;> rfl

mutual

/-- A printed value ends as values do, by induction on it: no key's end is found within. -/
theorem over_print (f : Format) (depth : ℕ) :
    (d : Doc) → Over ((print f depth d).foldl Seen.next nothing)
  | .null => by
    rw [print]
    exact Inside.over (Inside.foldl (Or.inl rfl) (by decide))
  | .bool b => by
    rw [print]
    apply Inside.over
    split_ifs
    · exact Inside.foldl (Or.inl rfl) (by decide)
    · exact Inside.foldl (Or.inl rfl) (by decide)
  | .number n => by
    rw [print]
    exact Inside.over (Inside.foldl (Or.inl rfl) n.no_quote)
  | .string s => by
    rw [print]
    exact over_quoted f s
  | .array items => by
    rw [print, List.foldl_append, List.foldl_append, Over.foldl_layout (Or.inl rfl),
      Over.foldl_layout (over_printItems f depth items)]
    exact Or.inl rfl
  | .object members => by
    rw [print, List.foldl_append, List.foldl_append, Over.foldl_layout (Or.inl rfl),
      Over.foldl_layout (over_printMembers f depth members)]
    exact Or.inl rfl

/-- So do the printed items of a list. -/
theorem over_printItems (f : Format) (depth : ℕ) :
    (items : List Doc) → Over ((printItems f depth items).foldl Seen.next nothing)
  | [] => Or.inl rfl
  | item :: items => by
    rw [printItems, List.foldl_append]
    have hitem := over_print f (depth + 1) item
    rcases items with _ | ⟨item', items⟩
    · exact hitem
    · rw [if_neg (by simp), List.foldl_append, hitem.foldl_layout]
      exact over_printItems f depth (item' :: items)

/-- So do the printed members of an object. -/
theorem over_printMembers (f : Format) (depth : ℕ) :
    (members : List (Text × Doc)) →
      Over ((printMembers f depth members).foldl Seen.next nothing)
  | [] => Or.inl rfl
  | (key, value) :: members => by
    rw [printMembers, List.append_assoc (f.indent depth).text, List.foldl_append,
      List.foldl_append, List.foldl_append, List.foldl_append, Over.foldl_layout (Or.inl rfl),
      foldl_key, Over.foldl_layout (over_print f (depth + 1) value)]
    exact over_printMembers f depth members

end

end Seen

/-- The key with a quote, a colon and a quote behind it does not occur in what is printed. -/
theorem no_key_print (f : Format) (d : Doc) : ¬ macKey <:+: print f 0 d := by
  intro hkey
  have hsuffix : "s\":\"".toList <:+: macKey := ⟨"\"AudioMacAddres".toList, [], by decide⟩
  have hstay : ∀ c, Seen.next .found c = .found := fun _ => rfl
  have hpat : ∀ q, "s\":\"".toList.foldl Seen.next q = .found := by
    intro q
    cases q <;> decide
  have hnot : (print f 0 d).foldl Seen.next .nothing ≠ .found := by
    rcases Seen.over_print f 0 d with h | h | h <;> simp [h]
  exact not_infix_of_foldl hstay hpat hnot (hsuffix.trans hkey)

end Seen

/-! ## What is masked -/

section Masked

/-- A member with the key and a string of 17 characters. -/
def macValue (key : Text) : Doc → Option Text
  | .string s => if key = AUDIO_MAC_ADDRESS ∧ s.length = addressStrLen then some s else none
  | _ => none

mutual

/-- The document has the key with a value of 17 characters. -/
def HasMac : Doc → Prop
  | .array items => HasMacItems items
  | .object members => HasMacMembers members
  | _ => False

def HasMacItems : List Doc → Prop
  | [] => False
  | item :: items => HasMac item ∨ HasMacItems items

def HasMacMembers : List (Text × Doc) → Prop
  | [] => False
  | (key, value) :: members => macValue key value ≠ none ∨ HasMac value ∨ HasMacMembers members

end

mutual

/-- The document with these values changed. -/
def mapMac (g : Text → Text) : Doc → Doc
  | .array items => .array (mapMacItems g items)
  | .object members => .object (mapMacMembers g members)
  | d => d

def mapMacItems (g : Text → Text) : List Doc → List Doc
  | [] => []
  | item :: items => mapMac g item :: mapMacItems g items

def mapMacMembers (g : Text → Text) : List (Text × Doc) → List (Text × Doc)
  | [] => []
  | (key, value) :: members =>
    (key, match macValue key value with
      | some s => .string (g s)
      | none => mapMac g value) :: mapMacMembers g members

end

/-- The scan ends on every text, leaves the text of the document outside of the values, and gives
one output for all documents that differ behind the mask alone. -/
def MacMasked (f : Format) (d : Doc) : Prop :=
  (∀ input, ∃ output, Anonymizes input output) ∧
  (∃ d', mapMac (fun _ => []) d' = mapMac (fun _ => []) d ∧
    Anonymizes (transferJsonToStr f (some d) []) (transferJsonToStr f (some d') [])) ∧
  ∀ d', mapMac getEncryptAddr d' = mapMac getEncryptAddr d → ∃ output,
    Anonymizes (transferJsonToStr f (some d) []) output ∧
    Anonymizes (transferJsonToStr f (some d') []) output

variable {f : Format} {g : Text → Text} {d : Doc} {key s : Text}

/-- Without a MAC key to look for, the output is the printed value. -/
theorem anonymizes_print_iff (f : Format) (d : Doc) {output : Text} :
    Anonymizes (transferJsonToStr f (some d) []) output ↔ output = print f 0 d :=
  anonymizes_iff_of_no_key (no_key_print f d)

/-- The value under the MAC key is an address of the right length. -/
theorem macValue_string (hkey : key = AUDIO_MAC_ADDRESS) (hs : s.length = addressStrLen) :
    macValue key (.string s) = some s := by
  rw [macValue, if_pos ⟨hkey, hs⟩]

/-- Only a text of the right length under the MAC key is an address. -/
theorem macValue_eq_some {value : Doc} (h : macValue key value = some s) :
    value = .string s ∧ key = AUDIO_MAC_ADDRESS ∧ s.length = addressStrLen := by
  rcases value with _ | _ | _ | s' | _ | _
  case string =>
    rw [macValue] at h
    split_ifs at h with hmac
    obtain rfl := Option.some.inj h
    exact ⟨rfl, hmac⟩
  all_goals cases h

/-! ### Documents without the key -/

mutual

/-- Without a MAC key the value is left as it is. -/
theorem mapMac_of_not_hasMac (g : Text → Text) : (d : Doc) → ¬ HasMac d → mapMac g d = d
  | .null, _ => rfl
  | .bool _, _ => rfl
  | .number _, _ => rfl
  | .string _, _ => rfl
  | .array items, h => by
    rw [mapMac, mapMacItems_of_not_hasMac g items h]
  | .object members, h => by
    rw [mapMac, mapMacMembers_of_not_hasMac g members h]

/-- Without a MAC key the items are left as they are. -/
theorem mapMacItems_of_not_hasMac (g : Text → Text) :
    (items : List Doc) → ¬ HasMacItems items → mapMacItems g items = items
  | [], _ => rfl
  | item :: items, h => by
    rw [HasMacItems, not_or] at h
    rw [mapMacItems, mapMac_of_not_hasMac g item h.1, mapMacItems_of_not_hasMac g items h.2]

/-- Without a MAC key the members are left as they are. -/
theorem mapMacMembers_of_not_hasMac (g : Text → Text) :
    (members : List (Text × Doc)) → ¬ HasMacMembers members →
      mapMacMembers g members = members
  | [], _ => rfl
  | (key, value) :: members, h => by
    rw [HasMacMembers, not_or, not_or, not_not] at h
    rw [mapMacMembers, h.1, mapMacMembers_of_not_hasMac g members h.2.2]
    exact congrArg (fun v => (key, v) :: members) (mapMac_of_not_hasMac g value h.2.1)

end

/-! ### Documents with the key -/

mutual

/-- Masking leaves the key, and the length of its value. -/
theorem HasMac.mapMac (hg : ∀ s, s.length = addressStrLen → (g s).length = addressStrLen) :
    (d : Doc) → HasMac d → HasMac (mapMac g d)
  | .array items, h => by
    rw [Softbus.mapMac, HasMac]
    exact HasMac.mapMacItems hg items h
  | .object members, h => by
    rw [Softbus.mapMac, HasMac]
    exact HasMac.mapMacMembers hg members h

/-- Masking keeps the MAC keys of a list. -/
theorem HasMac.mapMacItems (hg : ∀ s, s.length = addressStrLen → (g s).length = addressStrLen) :
    (items : List Doc) → HasMacItems items → HasMacItems (mapMacItems g items)
  | item :: items, h => by
    rw [Softbus.mapMacItems, HasMacItems]
    rcases h with hitem | hitems
    · exact Or.inl (HasMac.mapMac hg item hitem)
    · exact Or.inr (HasMac.mapMacItems hg items hitems)

/-- Masking keeps the MAC keys of an object. -/
theorem HasMac.mapMacMembers
    (hg : ∀ s, s.length = addressStrLen → (g s).length = addressStrLen) :
    (members : List (Text × Doc)) → HasMacMembers members →
      HasMacMembers (mapMacMembers g members)
  | (key, value) :: members, h => by
    rw [Softbus.mapMacMembers, HasMacMembers]
    rcases hmac : macValue key value with _ | s
    · rcases h with hvalue | hvalue | hmembers
      · exact absurd hmac hvalue
      · exact Or.inr (Or.inl (HasMac.mapMac hg value hvalue))
      · exact Or.inr (Or.inr (HasMac.mapMacMembers hg members hmembers))
    · obtain ⟨-, hkey, hs⟩ := macValue_eq_some hmac
      left
      rw [macValue_string hkey (hg s hs)]
      exact Option.some_ne_none _

end

/-- Strings that differ in one place are printed differently. -/
theorem eq_of_quoted_eq {a b : Text} {c c' : Char}
    (h : quoted f (a ++ c :: b) = quoted f (a ++ c' :: b)) : c = c' := by
  simp only [quoted, List.flatMap_append, List.flatMap_cons, List.cons_append,
    List.cons.injEq, true_and, List.append_cancel_left_eq, ← List.append_assoc,
    List.append_cancel_right_eq] at h
  exact f.escape_injective h

/-- A value with another character behind the mask, which is printed. -/
theorem exists_hidden (f : Format) (hs : s.length = addressStrLen) :
    ∃ s', s'.length = addressStrLen ∧ getEncryptAddr s' = getEncryptAddr s ∧
      quoted f s' ≠ quoted f s := by
  have hlt : startPos < s.length := by
    rw [hs]
    decide
  obtain ⟨c, hc⟩ : ∃ c, c ≠ s[startPos] := by
    by_cases hstar : s[startPos] = '*'
    · exact ⟨'0', by simp [hstar]⟩
    · exact ⟨'*', fun heq => hstar heq.symm⟩
  have hlen : (s.set startPos c).length = addressStrLen := by
    rw [List.length_set, hs]
  refine ⟨s.set startPos c, hlen, ?_, ?_⟩
  · have hne : ∀ t : Text, t.length = addressStrLen → ¬ (t = [] ∨ t.length ≠ addressStrLen) := by
      rintro t ht (rfl | hnot)
      · cases ht
      · exact hnot ht
    rw [getEncryptAddr, getEncryptAddr, if_neg (hne s hs), if_neg (hne _ hlen),
      List.take_set_of_le (le_refl _), List.drop_set_of_lt (by decide)]
  · intro heq
    have hsplit : s.take startPos ++ s[startPos] :: s.drop (startPos + 1) = s := by
      rw [← List.drop_eq_getElem_cons hlt, List.take_append_drop]
    have hset : s.set startPos c = s.take startPos ++ c :: s.drop (startPos + 1) := by
      rw [List.set_eq_take_append_cons_drop, if_pos hlt]
    apply hc
    apply eq_of_quoted_eq (f := f) (a := s.take startPos) (b := s.drop (startPos + 1))
    rw [← hset, hsplit]
    exact heq

mutual

/-- A document with the key is printed unlike another one that differs behind the mask alone. -/
theorem HasMac.exists_hidden (f : Format) : (d : Doc) → HasMac d →
    ∃ d', Softbus.mapMac getEncryptAddr d' = Softbus.mapMac getEncryptAddr d ∧
      ∀ depth, print f depth d' ≠ print f depth d
  | .array items, h => by
    obtain ⟨items', hmask, -, hprint⟩ := HasMac.exists_hiddenItems f items h
    refine ⟨.array items', ?_, fun depth heq => hprint depth ?_⟩
    · rw [Softbus.mapMac, Softbus.mapMac, hmask]
    · rw [print, print] at heq
      exact List.append_cancel_left (List.append_cancel_right heq)
  | .object members, h => by
    obtain ⟨members', hmask, -, hprint⟩ := HasMac.exists_hiddenMembers f members h
    refine ⟨.object members', ?_, fun depth heq => hprint depth ?_⟩
    · rw [Softbus.mapMac, Softbus.mapMac, hmask]
    · rw [print, print] at heq
      exact List.append_cancel_left (List.append_cancel_right heq)

/-- Two lists that print differently may mask to the same one. -/
theorem HasMac.exists_hiddenItems (f : Format) : (items : List Doc) → HasMacItems items →
    ∃ items', Softbus.mapMacItems getEncryptAddr items' =
        Softbus.mapMacItems getEncryptAddr items ∧
      items'.isEmpty = items.isEmpty ∧
      ∀ depth, printItems f depth items' ≠ printItems f depth items
  | item :: items, h => by
    rcases h with hitem | hitems
    · obtain ⟨item', hmask, hprint⟩ := HasMac.exists_hidden f item hitem
      refine ⟨item' :: items, ?_, rfl, fun depth heq => hprint (depth + 1) ?_⟩
      · rw [Softbus.mapMacItems, Softbus.mapMacItems, hmask]
      · rw [printItems, printItems] at heq
        exact List.append_cancel_right heq
    · obtain ⟨items', hmask, hempty, hprint⟩ := HasMac.exists_hiddenItems f items hitems
      refine ⟨item :: items', ?_, rfl, fun depth heq => hprint depth ?_⟩
      · rw [Softbus.mapMacItems, Softbus.mapMacItems, hmask]
      · rw [printItems, printItems, hempty] at heq
        exact List.append_cancel_left (List.append_cancel_left heq)

/-- Two objects that print differently may mask to the same one. -/
theorem HasMac.exists_hiddenMembers (f : Format) :
    (members : List (Text × Doc)) → HasMacMembers members →
    ∃ members', Softbus.mapMacMembers getEncryptAddr members' =
        Softbus.mapMacMembers getEncryptAddr members ∧
      members'.isEmpty = members.isEmpty ∧
      ∀ depth, printMembers f depth members' ≠ printMembers f depth members
  | (key, value) :: members, h => by
    rcases hmac : macValue key value with _ | s
    · rcases h with hvalue | hvalue | hmembers
      · exact absurd hmac hvalue
      · obtain ⟨value', hmask, hprint⟩ := HasMac.exists_hidden f value hvalue
        refine ⟨(key, value') :: members, ?_, rfl, fun depth heq => hprint (depth + 1) ?_⟩
        · have hmac' : macValue key value' = none := by
            rcases hstring : macValue key value' with _ | s'
            · rfl
            · obtain ⟨rfl, -, -⟩ := macValue_eq_some hstring
              have hnested := HasMac.mapMac (fun _ => length_getEncryptAddr) value hvalue
              rw [← hmask] at hnested
              exact absurd hnested id
          rw [Softbus.mapMacMembers, Softbus.mapMacMembers, hmac, hmac']
          dsimp only
          rw [hmask]
        · rw [printMembers, printMembers] at heq
          exact List.append_cancel_right (List.append_cancel_left heq)
      · obtain ⟨members', hmask, hempty, hprint⟩ := HasMac.exists_hiddenMembers f members hmembers
        refine ⟨(key, value) :: members', ?_, rfl, fun depth heq => hprint depth ?_⟩
        · rw [Softbus.mapMacMembers, Softbus.mapMacMembers, hmask]
        · rw [printMembers, printMembers, hempty] at heq
          exact List.append_cancel_left (List.append_cancel_left (List.append_cancel_left heq))
    · obtain ⟨rfl, hkey, hs⟩ := macValue_eq_some hmac
      obtain ⟨s', hs', hmask, hquoted⟩ := Softbus.exists_hidden f hs
      refine ⟨(key, .string s') :: members, ?_, rfl, fun depth heq => hquoted ?_⟩
      · rw [Softbus.mapMacMembers, Softbus.mapMacMembers, hmac, macValue_string hkey hs']
        dsimp only
        rw [hmask]
      · rw [printMembers, printMembers, print, print] at heq
        exact List.append_cancel_right (List.append_cancel_left heq)

end

/-- Two documents of which one has the key differ in more than what is behind the mask. -/
theorem eq_of_mapMac_eq {d' : Doc} (h : ¬ HasMac d)
    (hmask : mapMac getEncryptAddr d' = mapMac getEncryptAddr d) : d' = d := by
  rw [mapMac_of_not_hasMac getEncryptAddr d h] at hmask
  have h' : ¬ HasMac d' := by
    intro hmac
    apply h
    rw [← hmask]
    exact hmac.mapMac (fun _ => length_getEncryptAddr) d'
  rwa [mapMac_of_not_hasMac getEncryptAddr d' h'] at hmask

/-- A document with the key is not masked. -/
theorem HasMac.not_masked (f : Format) (h : HasMac d) : ¬ MacMasked f d := by
  rintro ⟨-, -, hsame⟩
  obtain ⟨d', hmask, hprint⟩ := h.exists_hidden f d
  obtain ⟨output, hout, hout'⟩ := hsame d' hmask
  rw [anonymizes_print_iff] at hout hout'
  exact hprint 0 (hout'.symm.trans hout)

/-- **MAC addresses.** Only the documents without one are masked: the scan leaves what is printed as
it is. -/
theorem macMasked_iff (f : Format) (d : Doc) : MacMasked f d ↔ ¬ HasMac d := by
  constructor
  · intro hmasked hmac
    exact hmac.not_masked f hmasked
  · intro hmac
    refine ⟨exists_anonymizes, ⟨d, rfl, (anonymizes_print_iff f d).mpr rfl⟩, fun d' hmask => ?_⟩
    rw [eq_of_mapMac_eq hmac hmask]
    have hout := (anonymizes_print_iff f d).mpr rfl
    exact ⟨print f 0 d, hout, hout⟩

end Masked

/-! ## The format of cJSON -/

section CJson

def hexDigit (n : ℕ) : Char := "0123456789abcdef".toList.getD n '0'

/-- A backslash and a letter, or a code for the other control characters. -/
def escapeChar (c : Char) : Text :=
  if c = '"' then ['\\', '"']
  else if c = '\\' then ['\\', '\\']
  else if c = '\x08' then ['\\', 'b']
  else if c = '\x0c' then ['\\', 'f']
  else if c = '\n' then ['\\', 'n']
  else if c = '\r' then ['\\', 'r']
  else if c = '\t' then ['\\', 't']
  else if c.toNat < 32 then
    ['\\', 'u', '0', '0', hexDigit (c.toNat / 16), hexDigit (c.toNat % 16)]
  else [c]

/-- The character that was escaped. -/
def unescapeChar : Text → Char
  | [c] => c
  | ['\\', d] =>
    if d = 'b' then '\x08'
    else if d = 'f' then '\x0c'
    else if d = 'n' then '\n'
    else if d = 'r' then '\r'
    else if d = 't' then '\t'
    else d
  | ['\\', 'u', '0', '0', h, l] =>
    Char.ofNat ("0123456789abcdef".toList.idxOf h * 16 + "0123456789abcdef".toList.idxOf l)
  | _ => '"'

/-- An escaped control character is read back. -/
theorem unescapeChar_control :
    ∀ n < 32, unescapeChar (escapeChar (Char.ofNat n)) = Char.ofNat n := by
  decide

/-- An escaped character is read back. -/
theorem unescapeChar_escapeChar (c : Char) : unescapeChar (escapeChar c) = c := by
  by_cases hcontrol : c.toNat < 32
  · have h := unescapeChar_control c.toNat hcontrol
    rwa [Char.ofNat_toNat] at h
  · have hne : ∀ d : Char, d.toNat < 32 → c ≠ d := by
      rintro d hd rfl
      exact hcontrol hd
    by_cases hquote : c = '"'
    · rw [hquote]
      rfl
    · by_cases hback : c = '\\'
      · rw [hback]
        rfl
      · have hshape : escapeChar c = [c] := by
          rw [escapeChar, if_neg hquote, if_neg hback, if_neg (hne _ (by decide)),
            if_neg (hne _ (by decide)), if_neg (hne _ (by decide)), if_neg (hne _ (by decide)),
            if_neg (hne _ (by decide)), if_neg hcontrol]
        rw [hshape]
        rfl

/-- No hexadecimal digit is a quote. -/
theorem hexDigit_ne_quote : ∀ n < 16, '"' ≠ hexDigit n := by
  decide

/-- A character is printed as it is or behind a backslash, and never as a bare quote. -/
theorem escapeChar_cases (c : Char) : (escapeChar c = [c] ∧ c ≠ '"') ∨
    ∃ d code, escapeChar c = '\\' :: d :: code ∧ '"' ∉ code := by
  have hshort (d : Char) : (['\\', d] = [c] ∧ c ≠ '"') ∨
      ∃ d' code, ['\\', d] = '\\' :: d' :: code ∧ '"' ∉ code :=
    Or.inr ⟨d, [], rfl, List.not_mem_nil⟩
  rw [escapeChar]
  split_ifs with hquote hback hb hf hn hr ht hcontrol
  · exact hshort _
  · exact hshort _
  · exact hshort _
  · exact hshort _
  · exact hshort _
  · exact hshort _
  · exact hshort _
  · have hhigh := hexDigit_ne_quote (c.toNat / 16) (by omega)
    have hlow := hexDigit_ne_quote (c.toNat % 16) (by omega)
    exact Or.inr ⟨'u', _, rfl, by simp [hhigh, hlow]⟩
  · exact Or.inl ⟨rfl, hquote⟩

/-- Tabs, and what follows them. -/
def tabbed (n : ℕ) (l : Layout) : Layout where
  text := List.replicate n '\t' ++ l.text
  ne_nil := List.append_ne_nil_of_right_ne_nil _ l.ne_nil
  plain := by
    intro c hc
    rcases List.mem_append.mp hc with htab | hc
    · rw [List.eq_of_mem_replicate htab]
      decide
    · exact l.plain c hc

/-- Commas between items, tabs before keys, a line for each member. -/
def cJSONFormat : Format where
  escape := escapeChar
  escape_cases := escapeChar_cases
  escape_injective := Function.LeftInverse.injective unescapeChar_escapeChar
  arrayStart := ⟨['['], by simp, by simp⟩
  itemEnd := ⟨[',', ' '], by simp, by simp⟩
  arrayEnd := ⟨[']'], by simp, by simp⟩
  objectStart := ⟨['\x7b', '\n'], by simp, by simp⟩
  indent := fun depth => tabbed depth ⟨['\t'], by simp, by simp⟩
  memberEnd := fun last =>
    if last then ⟨['\n'], by simp, by simp⟩ else ⟨[',', '\n'], by simp, by simp⟩
  objectEnd := fun depth => tabbed depth ⟨['\x7d'], by simp, by simp⟩

/-- An object with a MAC address. -/
def oneMac : Doc :=
  .object [(AUDIO_MAC_ADDRESS, .string "11:22:33:44:55:66".toList)]

example : print cJSONFormat 0 oneMac =
    "\x7b\n\t\"AudioMacAddress\":\t\"11:22:33:44:55:66\"\n\x7d".toList := by
  decide

/-- The MAC address can be read in the text. -/
theorem not_masked_oneMac : ¬ MacMasked cJSONFormat oneMac := by
  apply HasMac.not_masked
  left
  decide

end CJson

end AvSession.Softbus
