import RequestFlow.Document.Node

/-!
Contract: typed readings of documents.

Owns: the combinators that typed readings are made of (texts, numbers, lists,
dictionaries, choices among words, records), and the rule by which the first
error in document order is the one reported.

A record collects the results of all its fields, each with its place in the
document, and reports the failure that comes first. Fields that are missing are
noticed after everything else, in the order in which the record lists them.

Does not own: the types that are read. Each of them has its reading beside it.
-/

namespace RequestFlow.Document

/-- Where a node comes from, as far as readings differ by it.

* `text`: JSON text, read while it is parsed;
* `tree`: a value that was settled before;
* `yaml`: YAML, read with loose scalars. -/
inductive Dialect where
  | text
  | tree
  | yaml
deriving DecidableEq, Repr

/-- A typed reading of a node. -/
abbrev Decoder (α : Type) := Dialect → Node → Except DecodeError α

namespace Decode

/-- The error of a node that is none of the wanted shapes: its own defect, if it
has one. -/
def mismatch : Node → DecodeError
  | .unfit => .malformed
  | .fault found => found.read.error
  | _ => .wrongType

def string : Decoder String := fun _ node => node.text

def json : Decoder Json := fun _ node => node.toJson

def bool : Decoder Bool := fun _ node =>
  match node with
  | .bool value => .ok value
  | .loose text plain _ =>
      match plain, Scalar.boolWord? text with
      | true, some value => .ok value
      | _, _ => .error .wrongType
  | other => .error (mismatch other)

/-- A natural number up to a bound. Doubles do not count, even whole ones. -/
def natural (bound : Nat) : Decoder Nat := fun _ node =>
  let ofInt (value : Int) : Except DecodeError Nat :=
    if 0 ≤ value ∧ value ≤ bound then .ok value.toNat else .error .wrongValue
  match node with
  | .number (.int value) => ofInt value
  | .loose text plain _ =>
      match plain, Scalar.integer? text.toList with
      | true, some value => ofInt value
      | _, _ => .error .wrongType
  | other => .error (mismatch other)

/-- Whether a loose scalar stands for an absent value. -/
def isAbsent (text : String) (plain : Bool) (tag : Option String) : Except DecodeError Bool :=
  if !plain then .ok false
  else
    match tag with
    | none => .ok (text.isEmpty || Scalar.isNullWord text)
    | some name =>
        if name != Scalar.coreTag "null" then .ok false
        else if Scalar.isNullWord text then .ok true
        else .error .wrongValue

/-- Null for an absent value, anything else for a present one. -/
def option {α : Type} (value : Decoder α) : Decoder (Option α) := fun dialect node =>
  match node with
  | .null => .ok none
  | .loose text plain tag => do
      if ← isAbsent text plain tag then .ok none
      else (value dialect node).map some
  | _ => (value dialect node).map some

/-! ## Containers -/

/-- The items of a sequence. An empty YAML scalar is an empty sequence. -/
def openSequence : Node → Except DecodeError (List Node × Option Fault)
  | .sequence items ending => .ok (items, ending)
  | .marked (.sequence items ending) => .ok (items, ending)
  | .deep _ => .error .malformed
  | .loose "" true _ => .ok ([], none)
  | other => .error (mismatch other)

/-- The fields of a mapping. An empty YAML scalar is an empty mapping. -/
def openMapping : Node → Except DecodeError (List (Node × Node) × Option Fault)
  | .mapping fields ending => .ok (fields, ending)
  | .marked (.mapping fields ending) => .ok (fields, ending)
  | .deep _ => .error .malformed
  | .loose "" true _ => .ok ([], none)
  | other => .error (mismatch other)

/-- A list whose items are read one by one. -/
def list {α : Type} (item : Decoder α) : Decoder (List α) := fun dialect node => do
  let (items, ending) ← openSequence node
  let values ← items.mapM (item dialect)
  Node.closed ending
  .ok values

/-- Named fields in document order. -/
def namedFields {α : Type} (value : Decoder α) (dialect : Dialect) :
    List (Node × Node) → Except DecodeError (List (String × α))
  | [] => .ok []
  | (key, node) :: rest => do
      let name ← key.text
      let found ← value dialect node
      .ok ((name, found) :: (← namedFields value dialect rest))

/-- A dictionary; of several fields with one key the last one stays. -/
def dict {α : Type} (value : Decoder α) : Decoder (Dict α) := fun dialect node => do
  let (fields, ending) ← openMapping node
  let values ← namedFields value dialect fields
  Node.closed ending
  .ok (Dict.ofList values)

/-! ## Choices among words -/

/-- The value that a word names. -/
def choose {α : Type} (choices : List (String × α)) (word : String) : Except DecodeError α :=
  match choices.lookup word with
  | some value => .ok value
  | none => .error (.unknownVariant word (choices.map Prod.fst))

/-- The value under a word that must be null. -/
def expectNull : Node → Except DecodeError Unit
  | .null => .ok ()
  | other => .error (mismatch other)

/-- One of some words. A word may also be written as the only key of a mapping,
over a null. -/
def choice {α : Type} (choices : List (String × α)) : Decoder α := fun dialect node =>
  match dialect, node with
  | _, .string word => choose choices word
  | _, .fault found => .error found.read.error
  | .yaml, .loose text plain tag =>
      match tag.map String.toList with
      | some ('!' :: name) =>
          if plain && (text.isEmpty || Scalar.isNullWord text) then
            choose choices (String.ofList name)
          else .error .wrongType
      | _ => choose choices text
  | .text, .mapping [] (some found) => .error found.read.error
  | .text, .mapping ((key, value) :: more) ending => do
      let found ← choose choices (← key.text)
      expectNull value
      if more.isEmpty then
        Node.closed ending
        .ok found
      else .error .malformed
  | .text, _ => .error .malformed
  | .tree, .mapping [(key, value)] _ => do
      let found ← choose choices (← key.text)
      expectNull value
      .ok found
  | .tree, .mapping .. => .error .wrongValue
  | _, other => .error (mismatch other)

/-! ## Records -/

/-- A result, or an error with its place among the fields of a record. -/
inductive Located (α : Type) where
  | found (value : α)
  | failed (place : Nat) (error : DecodeError)

namespace Located

/-- A result at a place. -/
def ofExcept {α : Type} (place : Nat) : Except DecodeError α → Located α
  | .ok value => .found value
  | .error error => .failed place error

def map {α β : Type} (function : α → β) : Located α → Located β
  | .found value => .found (function value)
  | .failed place error => .failed place error

/-- Both results, or the error that comes first; of two at one place the left one. -/
def both {α β : Type} : Located α → Located β → Located (α × β)
  | .found left, .found right => .found (left, right)
  | .failed place error, .found _ => .failed place error
  | .found _, .failed place error => .failed place error
  | .failed first error, .failed second other =>
      if second < first then .failed second other else .failed first error

instance : Applicative Located where
  pure := .found
  map := map
  seq function argument := (both function (argument ())).map fun (function, argument) =>
    function argument

end Located

/-- The fields of a record as they stand in a document: for each the index of
the record's field that it names, if it names one. A list without names gives
the fields by position. -/
structure Fields where
  dialect : Dialect
  entries : List (Option Nat × Node)
  ending : Option DecodeError
  positional : Bool

/-- How a record names its fields: each may have several spellings, the first of
which is used in errors. -/
abbrev Names := List (List String)

/-- The index of the field that a key names. In a settled tree a whole number
names a field by its place. -/
def fieldIndex? (names : Names) (numbered : Bool) : Node → Except DecodeError (Option Nat)
  | .string key => .ok (names.findIdx? (·.contains key))
  | .loose key _ _ => .ok (names.findIdx? (·.contains key))
  | .number (.int place) =>
      if place < 0 then .error .wrongType
      else if numbered && place.toNat < names.length then .ok (some place.toNat)
      else .ok none
  | other => .error (mismatch other)

/-- The fields of a mapping, up to a key that cannot name anything. -/
def mappingFields (dialect : Dialect) (names : Names) (numbered : Bool) :
    List (Node × Node) → Option Fault → Fields
  | [], ending => ⟨dialect, [], ending.map fun found => found.read.error, false⟩
  | (key, value) :: rest, ending =>
      match fieldIndex? names numbered key with
      | .error error => ⟨dialect, [], some error, false⟩
      | .ok index =>
          let fields := mappingFields dialect names numbered rest ending
          { fields with entries := (index, value) :: fields.entries }

/-- The items of a sequence as the fields they stand for. -/
def sequenceFields (dialect : Dialect) (names : Names) (items : List Node)
    (ending : Option Fault) : Fields :=
  let known := items.take names.length
  let surplus : Option DecodeError :=
    if items.length ≤ names.length then ending.map fun found => found.read.error
    else if dialect == .tree then some .wrongLength
    else some .malformed
  ⟨dialect, known.zipIdx.map fun (item, index) => (some index, item), surplus, true⟩

/-- The fields of a node that stands for a record. -/
def openFields (dialect : Dialect) (names : Names) (node : Node) : Except DecodeError Fields :=
  match dialect, node with
  | .text, .sequence items ending => .ok (sequenceFields dialect names items ending)
  | .tree, .sequence items ending => .ok (sequenceFields dialect names items ending)
  | _, _ => do
      let (fields, ending) ← openMapping node
      .ok (mappingFields dialect names (dialect == .tree) fields ending)

namespace Fields

/-- The first entry for a field, with its place. -/
def find? (fields : Fields) (index : Nat) : Option (Nat × Node) :=
  (fields.entries.zipIdx.find? fun entry => entry.1.1 == some index).map
    fun ((_, node), place) => (place, node)

/-- The place of what is noticed after all fields were read. -/
def lastPlace (fields : Fields) : Nat := fields.entries.length + 1

/-- A field that must be present. -/
def required {α : Type} (fields : Fields) (index : Nat) (name : String) (value : Decoder α) :
    Located α :=
  match fields.find? index with
  | some (place, node) => .ofExcept place (value fields.dialect node)
  | none =>
      .failed fields.lastPlace (if fields.positional then .wrongLength else .missingField name)

/-- A field with a value for its absence. -/
def optional {α : Type} (fields : Fields) (index : Nat) (value : Decoder α) (absent : α) :
    Located α :=
  match fields.find? index with
  | some (place, node) => .ofExcept place (value fields.dialect node)
  | none => .found absent

/-- The first error that no single field reports: a field given twice, a defect
in a value that nobody reads, or a defect at the end. -/
def check (names : Names) (fields : Fields) : Located Unit :=
  let rec go : (seen : List Nat) → (place : Nat) → List (Option Nat × Node) → Located Unit
    | _, place, [] =>
        match fields.ending with
        | none => .found ()
        | some error => .failed place error
    | seen, place, (some index, _) :: rest =>
        if seen.contains index then
          .failed place (.duplicateField ((names[index]?.bind List.head?).getD ""))
        else go (index :: seen) (place + 1) rest
    | seen, place, (none, node) :: rest =>
        match node.skip with
        | .ok () => go seen (place + 1) rest
        | .error error => .failed place error
  go [] 0 fields.entries

/-- Builds a value from fields, unless anything about them is wrong. -/
def build {α : Type} (names : Names) (fields : Fields) (value : Fields → Located α) :
    Except DecodeError α :=
  match Located.both (fields.check names) (value fields) with
  | .found (_, found) => .ok found
  | .failed _ error => .error error

end Fields

/-- A record: a mapping of its fields, or a sequence of them in order. -/
def record {α : Type} (names : Names) (value : Fields → Located α) : Decoder α :=
  fun dialect node => do
    let fields ← openFields dialect names node
    fields.build names value

/-- A record whose fields share a mapping with another record. It is never
written as a sequence. -/
def flatRecord {α : Type} (names : Names) (value : Fields → Located α) : Decoder α :=
  fun dialect node => do
    let (fields, ending) ← openMapping node
    (mappingFields dialect names false fields ending).build names value

/-! ## Kinds with content -/

/-- What is known of a value that is written as its kind and its content. A
content that stands before its kind is settled and waits. -/
inductive KindProgress (κ α : Type) where
  | nothing
  | kind (kind : κ)
  | content (node : Node)
  | whole (value : α)

/-- How a value is written as its kind and its content: the names of the two
fields, the words for the kinds, the reading of a kind's content, and the value
of a kind that stands alone. -/
structure KindForm (κ α : Type) where
  kindName : String
  contentName : String
  kinds : List (String × κ)
  content : κ → Decoder α
  alone? : κ → Option α

namespace KindForm

variable {κ α : Type}

/-- Reads fields one after another; others than the two are ignored. -/
def readFields (form : KindForm κ α) (dialect : Dialect) :
    KindProgress κ α → List (Node × Node) → Option Fault → Except DecodeError α
  | progress, [], ending => do
      Node.closed ending
      match progress with
      | .whole value => .ok value
      | .kind kind =>
          match form.alone? kind with
          | some value => .ok value
          | none => .error (.missingField form.contentName)
      | .nothing | .content _ => .error (.missingField form.kindName)
  | progress, (key, node) :: rest, ending => do
      let name ← key.text
      if name == form.kindName then
        match progress with
        | .nothing =>
            let kind ← choice form.kinds dialect node
            readFields form dialect (.kind kind) rest ending
        | .content content =>
            let kind ← choice form.kinds dialect node
            let value ← form.content kind .tree content
            readFields form dialect (.whole value) rest ending
        | .kind _ | .whole _ => .error (.duplicateField form.kindName)
      else if name == form.contentName then
        match progress with
        | .nothing =>
            let settled ← node.settle
            readFields form dialect (.content settled) rest ending
        | .kind kind =>
            let value ← form.content kind dialect node
            readFields form dialect (.whole value) rest ending
        | .content _ | .whole _ => .error (.duplicateField form.contentName)
      else
        node.skip
        readFields form dialect progress rest ending

/-- A mapping with both fields, or a sequence of the kind and the content. -/
def decode (form : KindForm κ α) : Decoder α := fun dialect node =>
  match node with
  | .sequence items ending => do
      match items with
      | [] => do
          Node.closed ending
          .error .wrongLength
      | [kind] => do
          let _ ← choice form.kinds dialect kind
          Node.closed ending
          .error .wrongLength
      | kind :: content :: surplus => do
          let kind ← choice form.kinds dialect kind
          let value ← form.content kind dialect content
          if surplus.isEmpty then
            Node.closed ending
            .ok value
          else if dialect == .tree then .error .wrongLength
          else .error .malformed
  | _ => do
      let (fields, ending) ← openMapping node
      readFields form dialect .nothing fields ending

end KindForm

end Decode

end RequestFlow.Document
