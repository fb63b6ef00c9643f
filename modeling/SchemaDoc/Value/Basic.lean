/-
SchemaDoc.Value.Basic — the values that a schema document is made of.

JSON and YAML documents share one type. A mapping is a list of entries in
document order; its keys are scalars, because only scalars can be looked up.
Bytes, dates, sets and pairs occur in YAML documents only, and so do values
that hold themselves.

§1 types, §2 kinds, §3 sameness, §4 mappings, §5 truth.
-/
import SchemaDoc.Calendar

namespace SchemaDoc

/-! ## §1 Types -/

/-- A value without parts. -/
inductive Scalar where
  | null
  | bool (b : Bool)
  | integer (n : Int)
  | number (x : Binary64)
  | text (s : String)
  | bytes (bs : List UInt8)
  | date (d : Date)
  | timestamp (t : Timestamp)
  deriving DecidableEq

/-- A value of a schema document. -/
inductive Value where
  | scalar (s : Scalar)
  | sequence (items : List Value)
  /-- A key and its value where a document lists mappings of one entry. -/
  | pair (first second : Value)
  | set (members : List Scalar)
  | mapping (entries : List (Scalar × Value))
  /-- A value that holds itself somewhere inside. Its mark is its own; its body is laid out further
  than any use of it reaches. Where it is cut off, a scalar stands for the body. -/
  | looped (mark : Nat) (body : Value)

instance : Inhabited Value := ⟨.scalar .null⟩

namespace Value

@[match_pattern] abbrev null : Value := .scalar .null
@[match_pattern] abbrev bool (b : Bool) : Value := .scalar (.bool b)
@[match_pattern] abbrev integer (n : Int) : Value := .scalar (.integer n)
@[match_pattern] abbrev number (x : Binary64) : Value := .scalar (.number x)
@[match_pattern] abbrev text (s : String) : Value := .scalar (.text s)
@[match_pattern] abbrev bytes (bs : List UInt8) : Value := .scalar (.bytes bs)
@[match_pattern] abbrev date (d : Date) : Value := .scalar (.date d)
@[match_pattern] abbrev timestamp (t : Timestamp) : Value := .scalar (.timestamp t)

/-- A value without the mark of one that holds itself. -/
def bare : Value → Value
  | .looped _ body => body.bare
  | v => v

theorem sizeOf_bare (v : Value) : sizeOf v.bare ≤ sizeOf v := by
  fun_induction bare v with
  | case1 mark body ih =>
    simp only [looped.sizeOf_spec]
    omega
  | case2 => exact Nat.le_refl _

end Value

/-! ## §2 Kinds -/

/-- The kind of a value, as faults name it. -/
inductive Kind where
  | null | bool | integer | number | text | bytes | date | timestamp
  | sequence | pair | set | mapping
  deriving DecidableEq

/-- The name of a kind in messages. -/
def Kind.label : Kind → String
  | .null => "NoneType"
  | .bool => "bool"
  | .integer => "int"
  | .number => "float"
  | .text => "str"
  | .bytes => "bytes"
  | .date => "datetime.date"
  | .timestamp => "datetime.datetime"
  | .sequence => "list"
  | .pair => "tuple"
  | .set => "set"
  | .mapping => "dict"

/-- The name of a kind without the module it belongs to. -/
def Kind.shortLabel : Kind → String
  | .date => "date"
  | .timestamp => "datetime"
  | k => k.label

def Scalar.kind : Scalar → Kind
  | .null => .null
  | .bool _ => .bool
  | .integer _ => .integer
  | .number _ => .number
  | .text _ => .text
  | .bytes _ => .bytes
  | .date _ => .date
  | .timestamp _ => .timestamp

def Value.kind : Value → Kind
  | .scalar s => s.kind
  | .sequence _ => .sequence
  | .pair _ _ => .pair
  | .set _ => .set
  | .mapping _ => .mapping
  | .looped _ body => body.kind

/-! ## §3 Sameness -/

/-- The integer that a truth value or an integer counts as. -/
def Scalar.toInt? : Scalar → Option Int
  | .bool b => some (if b then 1 else 0)
  | .integer n => some n
  | _ => none

/-- Two scalars are the same key: numbers by value, whatever their kind, and truth values as the
numbers 0 and 1; what is not a number is the same as itself alone. -/
def Scalar.same (s t : Scalar) : Bool :=
  match s, t with
  | .number x, .number y => x.identical y
  | .number x, t => match t.toInt? with
    | some n => x.sameInt n
    | none => false
  | s, .number y => match s.toInt? with
    | some n => y.sameInt n
    | none => false
  | .timestamp a, .timestamp b => a.same b
  | s, t => match s.toInt?, t.toInt? with
    | some m, some n => m == n
    | _, _ => s == t

/-- A scalar is a member of a list of scalars. -/
def Scalar.among (s : Scalar) (ss : List Scalar) : Bool := ss.any (s.same ·)

/-! ## §4 Mappings -/

namespace Entries

/-- The value under a key. -/
def get? : List (Scalar × Value) → Scalar → Option Value
  | [], _ => none
  | (k, v) :: rest, key => if key.same k then some v else get? rest key

/-- The key is there. -/
def has (entries : List (Scalar × Value)) (key : Scalar) : Bool := (get? entries key).isSome

/-- A repeated key keeps its first place and takes the last value; a new one goes to the end. -/
def insert : List (Scalar × Value) → Scalar → Value → List (Scalar × Value)
  | [], key, value => [(key, value)]
  | (k, v) :: rest, key, value =>
    if key.same k then (k, value) :: rest else (k, v) :: insert rest key value

/-- A mapping read entry by entry. -/
def ofList (entries : List (Scalar × Value)) : List (Scalar × Value) :=
  entries.foldl (fun acc e => insert acc e.1 e.2) []

/-- A value is smaller than the mapping that holds it. -/
theorem sizeOf_get? {entries : List (Scalar × Value)} {key : Scalar} {v : Value}
    (h : get? entries key = some v) : sizeOf v + 3 ≤ sizeOf entries := by
  induction entries with
  | nil => simp [get?] at h
  | cons e rest ih =>
    obtain ⟨k, w⟩ := e
    simp only [get?] at h
    split at h
    · cases h
      simp
      cases rest <;> simp <;> omega
    · have := ih h
      simp
      omega

end Entries

namespace Value

/-- The value under a text key of a mapping; nothing for values of other kinds. -/
def get? (v : Value) (key : String) : Option Value :=
  match v.bare with
  | .mapping entries => Entries.get? entries (.text key)
  | _ => none

theorem sizeOf_get? {node v : Value} {key : String} (h : node.get? key = some v) :
    sizeOf v + 4 ≤ sizeOf node := by
  unfold get? at h
  have hb := sizeOf_bare node
  split at h
  · next entries he =>
    have := Entries.sizeOf_get? h
    simp only [he, mapping.sizeOf_spec] at hb
    omega
  · cases h

/-- The value is a mapping with this text key. -/
def has (v : Value) (key : String) : Bool := (v.get? key).isSome

/-- The value is a mapping. -/
def isMapping (v : Value) : Bool := v.kind == .mapping

/-! ## §5 Truth -/

/-- A fact is given: it is neither null, false, zero, not a number nor the empty text. Empty
sequences and mappings are given. -/
def isGiven : Value → Bool
  | .scalar .null => false
  | .scalar (.bool b) => b
  | .scalar (.integer n) => n != 0
  | .scalar (.number x) => !(x.isZero || x.isNan)
  | .scalar (.text s) => s != ""
  | _ => true

/-- A value is neither null, false, zero nor empty. What is not a number is not zero. -/
def isFilled : Value → Bool
  | .scalar .null => false
  | .scalar (.bool b) => b
  | .scalar (.integer n) => n != 0
  | .scalar (.number x) => !x.isZero
  | .scalar (.text s) => s != ""
  | .scalar (.bytes bs) => !bs.isEmpty
  | .sequence items => !items.isEmpty
  | .set members => !members.isEmpty
  | .mapping entries => !entries.isEmpty
  | .looped _ body => body.isFilled
  | _ => true

end Value

end SchemaDoc
