import InfobaseGateway.Proofs.Text.Ascii
import InfobaseGateway.Yaml.Value

/-!
# Documents for trees

A document for a configuration tree: lists in brackets, dictionaries in braces, texts and keys
between double quotes, and all of it in one line of printable ASCII. In a text, the characters that
are not printable ASCII are escaped.
-/

namespace InfobaseGateway.Yaml

/-! ## Writing -/

/-- Whether a character is printable ASCII. -/
def isPrintable (c : Char) : Bool :=
  0x20 ≤ c.toNat && c.toNat ≤ 0x7e

/-- Whether a character stands for itself between quotes. -/
def isKept (c : Char) : Bool :=
  isPrintable c && c ≠ '"' && c ≠ '\\'

/-- The eight last hexadecimal digits of a number. -/
def hexDigits (n : Nat) : List Char :=
  [n / 0x10000000, n / 0x1000000, n / 0x100000, n / 0x10000, n / 0x1000, n / 0x100, n / 0x10, n].map
    fun n => Nat.digitChar (n % 16)

def writtenChar (c : Char) : List Char :=
  if isKept c then [c] else '\\' :: 'U' :: hexDigits c.toNat

/-- What stands between the quotes of a text. -/
def quotedChars (text : List Char) : List Char :=
  text.flatMap writtenChar

def writtenText (text : String) : List Char :=
  '"' :: (quotedChars text.toList ++ ['"'])

/-- The comma before an item that is not the first. -/
def comma (first : Bool) : List Char :=
  if first then [] else [',']

mutual

def written : ConfigTree → List Char
  | .null => "null".toList
  | .flag value => (toString value).toList
  | .integer value => (toString value).toList
  | .decimal spelling => spelling.toList
  | .text value => writtenText value
  | .character value => writtenText value.toString
  | .list items => '[' :: writtenItems true items
  | .dict entries => '\x7b' :: writtenEntries true entries

/-- List items and the bracket after them. -/
def writtenItems (first : Bool) : List ConfigTree → List Char
  | [] => [']']
  | item :: items => comma first ++ (written item ++ writtenItems false items)

/-- The entries of a dictionary and the brace after them. -/
def writtenEntries (first : Bool) : List (String × ConfigTree) → List Char
  | [] => ['\x7d']
  | (key, value) :: entries =>
    comma first ++ (writtenText key ++ ':' :: (written value ++ writtenEntries false entries))

end

/-- The document for a tree. -/
def write (tree : ConfigTree) : String :=
  String.ofList (written tree)

/-! ## What can be written -/

/-- Keys under which a document can hold the entries of one dictionary: they are different, not too
long for keys, and have no meaning of their own. -/
structure KeysWritable (keys : List String) : Prop where
  distinct : keys.Nodup
  short : ∀ key ∈ keys, (writtenText key).length ≤ 1024
  ordinary : ∀ key ∈ keys, key ≠ Document.valueKey ∧ key ≠ Document.provenanceKey

instance (keys : List String) : Decidable (KeysWritable keys) :=
  decidable_of_iff
    (keys.Nodup ∧ (∀ key ∈ keys, (writtenText key).length ≤ 1024) ∧
      ∀ key ∈ keys, key ≠ Document.valueKey ∧ key ≠ Document.provenanceKey)
    ⟨fun ⟨distinct, short, ordinary⟩ => ⟨distinct, short, ordinary⟩,
      fun ⟨distinct, short, ordinary⟩ => ⟨distinct, short, ordinary⟩⟩

/-- The trees that a document can hold. At most `depth` lists and dictionaries lie in each other. -/
inductive Writable : (depth : Nat) → ConfigTree → Prop
  | null (depth : Nat) : Writable depth .null
  | flag (depth : Nat) (value : Bool) : Writable depth (.flag value)
  | integer (depth : Nat) {n : Nat} (bound : n < Nat.pow 2 128) : Writable depth (.integer n)
  | text (depth : Nat) (value : String) : Writable depth (.text value)
  | list {depth : Nat} {items : List ConfigTree}
      (items_writable : ∀ item ∈ items, Writable depth item) :
    Writable (depth + 1) (.list items)
  | dict {depth : Nat} {entries : ConfigEntries} (keys : KeysWritable (entries.map Prod.fst))
      (values_writable : ∀ value ∈ entries.map Prod.snd, Writable depth value) :
    Writable (depth + 1) (.dict entries)

/-! ## Characters -/

theorem isPrintable_of_isKept {c : Char} (hkept : isKept c = true) : isPrintable c = true := by
  rw [isKept, Bool.and_assoc, Bool.and_eq_true] at hkept
  exact hkept.1

theorem digitChar_mod (n : Nat) :
    isPrintable (Nat.digitChar (n % 16)) = true ∧
      Config.Number.digit? 16 (Nat.digitChar (n % 16)) = some (n % 16) := by
  have hdigits :
      ∀ digit < 16, isPrintable (Nat.digitChar digit) = true ∧
        Config.Number.digit? 16 (Nat.digitChar digit) = some digit := by
    decide
  exact hdigits _ (Nat.mod_lt n (by decide))

/-- Eight hexadecimal digits are enough for a character. -/
theorem charOfHex?_hexDigits (c : Char) :
    Config.Number.charOfHex? (hexDigits c.toNat) = some c := by
  have hbound : c.toNat < 0x100000000 := c.val.toNat_lt
  have hnumber : Config.Number.ofDigits? 16 (hexDigits c.toNat) = some c.toNat := by
    simp only [hexDigits, List.map_cons, List.map_nil, Config.Number.ofDigits?, List.foldlM_cons,
      List.foldlM_nil, (digitChar_mod _).2, Option.map_some, Option.bind_eq_bind, Option.bind_some,
      Option.pure_def, Option.some.injEq]
    omega
  have hvalid : c.toNat.isValidChar := c.valid
  rw [Config.Number.charOfHex?, hnumber, Option.bind_some, if_pos hvalid, Char.ofNat_toNat]

theorem isPrintable_writtenChar (c : Char) : ∀ d ∈ writtenChar c, isPrintable d = true := by
  cases hkept : isKept c with
  | true =>
    rw [writtenChar, if_pos hkept]
    simpa using isPrintable_of_isKept hkept
  | false =>
    have hdigits : ∀ d ∈ hexDigits c.toNat, isPrintable d = true := by
      rw [hexDigits]
      exact List.forall_mem_map.mpr fun n _ => (digitChar_mod n).1
    rw [writtenChar, if_neg (by simp [hkept])]
    simpa using ⟨by decide, by decide, hdigits⟩

theorem isPrintable_writtenText (text : String) : ∀ c ∈ writtenText text, isPrintable c = true := by
  have hchars : ∀ c ∈ quotedChars text.toList, isPrintable c = true := by
    intro c hc
    obtain ⟨d, -, hd⟩ := List.mem_flatMap.mp hc
    exact isPrintable_writtenChar d c hd
  have hquote : isPrintable '"' = true := by decide
  simpa [writtenText, hquote, or_imp, forall_and] using hchars

theorem isPrintable_of_isAlphanum {c : Char} (hword : c.isAlphanum = true) :
    isPrintable c = true := by
  obtain ⟨hlow, hhigh⟩ := Text.toNat_of_isAlphanum hword
  simp only [isPrintable, Bool.and_eq_true, decide_eq_true_eq]
  omega

theorem toList_toString_natCast (n : Nat) : (toString (n : Int)).toList = Nat.toDigits 10 n :=
  Nat.toList_repr

/-- Null, truth values and numbers are words. -/
theorem isAlphanum_toDigits (n : Nat) : ∀ c ∈ Nat.toDigits 10 n, c.isAlphanum = true := by
  intro c hc
  have hdigit := Nat.isDigit_of_mem_toDigits (by decide) (by decide) hc
  rw [Char.isAlphanum, hdigit, Bool.or_true]

/-! ## Lists and dictionaries -/

theorem forall_mem_comma {P : Char → Prop} (hcomma : P ',') (first : Bool) :
    ∀ c ∈ comma first, P c := by
  cases first with
  | true => exact List.forall_mem_nil P
  | false => exact List.forall_mem_singleton.mpr hcomma

theorem isPrintable_writtenItems
    {items : List ConfigTree} (hitems : ∀ item ∈ items, ∀ c ∈ written item, isPrintable c = true)
    (first : Bool) :
    ∀ c ∈ writtenItems first items, isPrintable c = true := by
  induction items generalizing first with
  | nil => simpa [writtenItems] using by decide
  | cons item items ih =>
    obtain ⟨hitem, hitems⟩ := List.forall_mem_cons.mp hitems
    rw [writtenItems]
    exact List.forall_mem_append.mpr ⟨forall_mem_comma (by decide) first,
      List.forall_mem_append.mpr ⟨hitem, ih hitems false⟩⟩

theorem isPrintable_writtenEntries
    {entries : ConfigEntries}
    (hvalues : ∀ value ∈ entries.map Prod.snd, ∀ c ∈ written value, isPrintable c = true)
    (first : Bool) :
    ∀ c ∈ writtenEntries first entries, isPrintable c = true := by
  induction entries generalizing first with
  | nil => simpa [writtenEntries] using by decide
  | cons entry entries ih =>
    obtain ⟨key, value⟩ := entry
    obtain ⟨hvalue, hvalues⟩ := List.forall_mem_cons.mp hvalues
    rw [writtenEntries]
    exact List.forall_mem_append.mpr ⟨forall_mem_comma (by decide) first,
      List.forall_mem_append.mpr ⟨isPrintable_writtenText key,
        List.forall_mem_cons.mpr ⟨by decide,
          List.forall_mem_append.mpr ⟨hvalue, ih hvalues false⟩⟩⟩⟩

/-- A document is printable ASCII. -/
theorem Writable.isPrintable_written
    {depth : Nat} {tree : ConfigTree} (htree : Writable depth tree) :
    ∀ c ∈ written tree, isPrintable c = true := by
  induction htree with
  | null => exact List.all_eq_true.mp rfl
  | flag _ value => cases value <;> exact List.all_eq_true.mp rfl
  | integer _ bound =>
    rw [written, toList_toString_natCast]
    exact fun c hc => isPrintable_of_isAlphanum (isAlphanum_toDigits _ c hc)
  | text _ value => exact isPrintable_writtenText value
  | list _ ih =>
    exact List.forall_mem_cons.mpr ⟨by decide, isPrintable_writtenItems ih true⟩
  | dict _ _ ih =>
    exact List.forall_mem_cons.mpr ⟨by decide, isPrintable_writtenEntries ih true⟩

end InfobaseGateway.Yaml
