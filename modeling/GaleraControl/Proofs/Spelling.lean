import GaleraControl.Proofs.OrderedDocuments

/-!
# Spellings of a value

A value has one document that the model writes and many from which it is read.
A `Spelling` says which documents stand for which values without running a
decoder: a choice may be written by its name or as an object with that name, an
unset value as `null`, and a record as an object, in which further members do
not count, or as an array of its fields in the order of their declaration, which
may end early where all that is left has a default.

A decoder is then characterised by its spelling: `Spelling.ReadBy` says that
among the documents in order it reads exactly those that the spelling gives a
value, and as that value.  The case that needs an argument is the array.  A
reader takes its fields from the items one after another, and this is the same
as reading them from members, once the declared names are laid over the items.
-/

namespace GaleraControl

/-- Which documents stand for which values. -/
abbrev Spelling (Value : Type) := Json → Value → Prop

namespace Spelling

variable {Value : Type}

/-- A value that only one document stands for. -/
def only (encode : Value → Json) : Spelling Value :=
  fun document value => document = encode value

def text : Spelling String := only .string

def bool : Spelling Bool := only .bool

def int32 : Spelling Int32 := only fun value => .integer value.toInt

def int64 : Spelling Int64 := only fun value => .integer value.toInt

/-- A choice: its name, or an object whose only member has that name and is `null`. -/
def choice (name : Value → String) : Spelling Value :=
  fun document value =>
    document = .string (name value) ∨ document = .object [(name value, .null)]

/-- A value that may be unset, which `null` stands for. -/
def optional (spelling : Spelling Value) : Spelling (Option Value)
  | document, none => document = .null
  | document, some value => spelling document value

/-- A sequence, item by item. -/
def list (spelling : Spelling Value) : Spelling (List Value) :=
  fun document values => ∃ items, document = .array items ∧ List.Forall₂ spelling items values

/-- What a field holds: what its member stands for, or its default where it has no member. -/
inductive Fills (spelling : Spelling Value) (absent : Option Value) :
    Option Json → Value → Prop where
  | shown {document : Json} {value : Value} (spelled : spelling document value) :
      Fills spelling absent (some document) value
  | missing {value : Value} (fallback : absent = some value) : Fills spelling absent none value

/-- A field that has to be there. -/
def Required (spelling : Spelling Value) (members : List (String × Json)) (name : String)
    (value : Value) : Prop :=
  spelling.Fills none (Table.get? members name) value

/-- A field that holds `absent` when it is not there. -/
def Defaulted (spelling : Spelling Value) (absent : Value) (members : List (String × Json))
    (name : String) (value : Value) : Prop :=
  spelling.Fills (some absent) (Table.get? members name) value

/-- A field that is unset when it is not there or `null`. -/
def Optional (spelling : Spelling Value) (members : List (String × Json)) (name : String)
    (value : Option Value) : Prop :=
  spelling.optional.Fills (some none) (Table.get? members name) value

end Spelling

/--
The members that a record is read from: those of an object, and the items of an
array under the declared names, one after another.
-/
inductive Json.Lays (declared : List String) : Json → List (String × Json) → Prop where
  | object (members : List (String × Json)) : Lays declared (.object members) members
  | array (items : List Json) (fits : items.length ≤ declared.length) :
      Lays declared (.array items) (declared.zip items)

/-- A record with the declared names, of whose members `fields` says what they stand for. -/
def Spelling.record {Value : Type} (declared : List String)
    (fields : List (String × Json) → Value → Prop) : Spelling Value :=
  fun document value => ∃ members, document.Lays declared members ∧ fields members value

/-! ## Fields by position -/

namespace Table

theorem get?_eq_some_iff {Key Value : Type} [DecidableEq Key] {table : List (Key × Value)}
    (distinct : Distinct table) {key : Key} {value : Value} :
    get? table key = some value ↔ (key, value) ∈ table :=
  ⟨mem_of_get?, get?_of_mem distinct⟩

/-- Under names laid over values each name shows the value at its own position. -/
theorem get?_zip {Value : Type} {names : List String} {name : String} (declared : name ∈ names)
    (values : List Value) : get? (names.zip values) name = values[names.idxOf name]? := by
  induction names generalizing values with
  | nil => simp at declared
  | cons held rest ih =>
      cases values with
      | nil => simp
      | cons value values =>
          by_cases same : held = name
          · simp [get?, same]
          · have later : name ∈ rest :=
              (List.mem_cons.mp declared).resolve_left (Ne.symm same)
            simp [get?, same, List.idxOf_cons_ne rest same, ih later]

end Table

namespace RecordReader

variable {Value Field : Type}

/-- The names of the fields in the order in which they are declared. -/
def names (reader : RecordReader Value) : List String :=
  reader.checks.map Prod.fst

theorem names_next (reader : RecordReader (Field → Value)) (name : String)
    (decode : Decoder Field) (absent : Option Field) :
    (reader.next (fieldWith name decode absent)).names = reader.names ++ [name] := by
  simp [names, next, fieldWith]

/-- A field read from members holds what its own member stands for. -/
theorem ofMembers_fieldWith_eq_ok_iff {name : String} {decode : Decoder Field}
    {absent : Option Field} {members : List (String × Json)} {value : Field} :
    (fieldWith name decode absent).ofMembers members = .ok value ↔
      Spelling.Fills (fun document value => decode document = .ok value) absent
        (Table.get? members name) value := by
  constructor
  · intro read
    cases present : Table.get? members name with
    | some document => exact .shown ((ofMembers_fieldWith present).symm.trans read)
    | none =>
        cases absent with
        | none => simp [fieldWith, present] at read
        | some fallback =>
            rw [ofMembers_fieldWith_absent present] at read
            exact .missing (congrArg some (Except.ok.inj read))
  · intro fills
    generalize present : Table.get? members name = found at fills
    cases fills with
    | shown spelled => exact (ofMembers_fieldWith present).trans spelled
    | missing fallback =>
        rw [fallback]
        exact ofMembers_fieldWith_absent present

/-- A field read from items holds what the next item stands for, which it uses up. -/
theorem ofItems_fieldWith_eq_ok_iff {name : String} {decode : Decoder Field}
    {absent : Option Field} {tooShort : Nat → DecodeError} {rest : List Json} {present : Nat}
    {value : Field} {left : Items} :
    (fieldWith name decode absent).ofItems tooShort ⟨rest, present⟩ = .ok (value, left) ↔
      Spelling.Fills (fun document value => decode document = .ok value) absent
        rest.head? value ∧ left = ⟨rest.tail, present⟩ := by
  cases rest with
  | nil =>
      cases absent with
      | none =>
          constructor
          · simp [fieldWith]
          · rintro ⟨⟨⟩ | ⟨⟨⟩⟩, _⟩
      | some fallback =>
          constructor
          · intro read
            obtain ⟨rfl, rfl⟩ : fallback = value ∧ ⟨[], present⟩ = left := by
              simpa [fieldWith] using read
            exact ⟨.missing rfl, rfl⟩
          · rintro ⟨⟨⟩ | ⟨⟨⟩⟩, rfl⟩
            rfl
  | cons item rest =>
      cases decoded : decode item with
      | error fault =>
          constructor
          · simp [fieldWith, decoded, bind, Except.bind]
          · rintro ⟨⟨spelled⟩, _⟩
            exact absurd (decoded.symm.trans spelled) (by simp)
      | ok found =>
          constructor
          · intro read
            obtain ⟨rfl, rfl⟩ : found = value ∧ ⟨rest, present⟩ = left := by
              simpa [fieldWith, decoded, bind, Except.bind, pure, Except.pure] using read
            exact ⟨.shown decoded, rfl⟩
          · rintro ⟨⟨spelled⟩, rfl⟩
            simp [fieldWith, spelled, bind, Except.bind, pure, Except.pure]

theorem ofItems_next {reader : RecordReader (Field → Value)} {field : RecordReader Field}
    {tooShort : Nat → DecodeError} {items left : Items} {value : Value} :
    (reader.next field).ofItems tooShort items = .ok (value, left) ↔
      ∃ build middle part, reader.ofItems tooShort items = .ok (build, middle) ∧
        field.ofItems tooShort middle = .ok (part, left) ∧ build part = value := by
  cases first : reader.ofItems tooShort items with
  | error fault => simp [next, first, bind, Except.bind]
  | ok found =>
      rcases found with ⟨build, middle⟩
      cases second : field.ofItems tooShort middle with
      | error fault => simp [next, first, second, bind, Except.bind]
      | ok read =>
          rcases read with ⟨part, after⟩
          simp only [next, first, second, bind, Except.bind, pure, Except.pure,
            Except.ok.injEq, Prod.mk.injEq]
          constructor
          · rintro ⟨rfl, rfl⟩
            exact ⟨build, middle, part, ⟨rfl, rfl⟩, ⟨second, rfl⟩⟩
          · rintro ⟨_, _, last, ⟨rfl, rfl⟩, again, rfl⟩
            obtain ⟨rfl, rfl⟩ : part = last ∧ after = left := by simpa [second] using again
            exact ⟨rfl, rfl⟩

/-- A record is read from items when its fields are and no item is left. -/
theorem record_array_eq_ok_iff {reader : RecordReader Value} {record : String}
    {items : List Json} {value : Value} :
    Decoder.record record reader (.array items) = .ok value ↔
      ∃ left, reader.ofItems (fun present => .tooShort present record reader.checks.length)
        ⟨items, items.length⟩ = .ok (value, left) ∧ left.rest = [] := by
  simp only [Decoder.record]
  cases read : reader.ofItems (fun present => .tooShort present record reader.checks.length)
      ⟨items, items.length⟩ with
  | error fault => simp [bind, Except.bind]
  | ok found =>
      rcases found with ⟨part, after⟩
      by_cases used : after.rest = []
      · simp only [bind, Except.bind, if_pos used, pure, Except.pure, Except.ok.injEq,
          Prod.mk.injEq]
        constructor
        · rintro rfl
          exact ⟨after, ⟨rfl, rfl⟩, used⟩
        · rintro ⟨_, ⟨same, _⟩, _⟩
          exact same
      · simp only [bind, Except.bind, if_neg used]
        constructor
        · intro refused
          cases refused
        · rintro ⟨left, same, empty⟩
          cases same
          exact absurd empty used

/-- Reading items is reading members, the declared names being laid over the items. -/
structure Positional (reader : RecordReader Value) : Prop where
  congr : ∀ first second,
    (∀ name ∈ reader.names, Table.get? first name = Table.get? second name) →
      reader.ofMembers first = reader.ofMembers second
  ofItems : ∀ tooShort rest present value left,
    reader.ofItems tooShort ⟨rest, present⟩ = .ok (value, left) ↔
      reader.ofMembers (reader.names.zip rest) = .ok value ∧
        left = ⟨rest.drop reader.names.length, present⟩

namespace Positional

theorem done (value : Value) : Positional (done value) where
  congr _ _ _ := rfl
  ofItems tooShort rest present read left := by
    simp only [RecordReader.done, names, List.map_nil, List.length_nil, List.drop_zero,
      Except.ok.injEq, Prod.mk.injEq]
    exact and_congr_right fun _ => eq_comm

/-- One more field under a new name reads the item after those of the fields before it. -/
theorem next {reader : RecordReader (Field → Value)} (first : Positional reader) {name : String}
    (fresh : name ∉ reader.names) (decode : Decoder Field) (absent : Option Field) :
    Positional (reader.next (fieldWith name decode absent)) where
  congr left right same := by
    rw [names_next] at same
    have builds := first.congr left right fun other declared =>
      same other (List.mem_append_left [name] declared)
    have parts : (fieldWith name decode absent).ofMembers left =
        (fieldWith name decode absent).ofMembers right :=
      ofMembers_fieldWith_congr
        (same name (List.mem_append_right reader.names (List.mem_singleton_self name)))
    simp only [RecordReader.next, builds, parts]
  ofItems tooShort rest present value left := by
    have earlier : reader.ofMembers ((reader.names ++ [name]).zip rest) =
        reader.ofMembers (reader.names.zip rest) := by
      refine first.congr _ _ ?_
      intro other declared
      rw [Table.get?_zip (List.mem_append_left [name] declared), Table.get?_zip declared,
        List.idxOf_append_of_mem declared]
    have own : Table.get? ((reader.names ++ [name]).zip rest) name =
        (rest.drop reader.names.length).head? := by
      rw [Table.get?_zip (by simp), List.idxOf_append_of_notMem fresh, List.head?_drop]
      simp
    have used : rest.drop (reader.names ++ [name]).length =
        (rest.drop reader.names.length).tail := by
      simp [List.tail_drop]
    rw [ofItems_next, names_next, ofMembers_next, used]
    constructor
    · rintro ⟨build, middle, part, builds, parts, rfl⟩
      obtain ⟨found, rfl⟩ := (first.ofItems _ _ _ _ _).mp builds
      obtain ⟨fills, rfl⟩ := ofItems_fieldWith_eq_ok_iff.mp parts
      exact ⟨⟨build, part, earlier.trans found,
        ofMembers_fieldWith_eq_ok_iff.mpr (own ▸ fills), rfl⟩, rfl⟩
    · rintro ⟨⟨build, part, builds, parts, rfl⟩, rfl⟩
      exact ⟨build, _, part, (first.ofItems _ _ _ _ _).mpr ⟨earlier.symm.trans builds, rfl⟩,
        ofItems_fieldWith_eq_ok_iff.mpr ⟨own ▸ ofMembers_fieldWith_eq_ok_iff.mp parts, rfl⟩,
        rfl⟩

/-- A record is read from the members that its document lays out. -/
theorem record_eq_ok_iff {reader : RecordReader Value} (positional : Positional reader)
    (sound : Sound reader) {record : String} {document : Json} (ordered : document.Ordered)
    {value : Value} :
    Decoder.record record reader document = .ok value ↔
      ∃ members, document.Lays reader.names members ∧ reader.ofMembers members = .ok value := by
  cases document with
  | object members =>
      constructor
      · intro read
        exact ⟨members, .object members, (object_eq_ok_iff.mp read).2⟩
      · rintro ⟨_, ⟨⟩, found⟩
        exact object_of_ofMembers sound ordered.increasing.distinct found
  | array items =>
      rw [record_array_eq_ok_iff]
      constructor
      · rintro ⟨left, read, empty⟩
        obtain ⟨found, rfl⟩ := (positional.ofItems _ _ _ _ _).mp read
        exact ⟨_, .array items (List.drop_eq_nil_iff.mp empty), found⟩
      · rintro ⟨members, laid, found⟩
        cases laid with
        | array _ fits =>
        exact ⟨_, (positional.ofItems _ _ _ _ _).mpr ⟨found, rfl⟩,
          List.drop_eq_nil_iff.mpr fits⟩
  | null | bool _ | number _ | string _ =>
      constructor
      · simp [Decoder.record]
      · rintro ⟨_, ⟨⟩, _⟩

end Positional

end RecordReader

theorem Json.Lays.ordered {declared : List String} {document : Json}
    {members : List (String × Json)} (laid : document.Lays declared members)
    (ordered : document.Ordered) {name : String} {shown : Json}
    (found : Table.get? members name = some shown) : shown.Ordered := by
  cases laid with
  | object => exact ordered.member found
  | array items _ => exact ordered.item (List.of_mem_zip (Table.mem_of_get? found)).2

/-! ## Decoders by their spellings -/

namespace Spelling

variable {Value : Type} {decode : Decoder Value} {spelling : Spelling Value}

/--
Of the documents in order the decoder reads those that stand for a value, and as
that value.
-/
structure ReadBy (spelling : Spelling Value) (decode : Decoder Value) : Prop where
  ok_iff : ∀ {document value}, document.Ordered →
    (decode document = .ok value ↔ spelling document value)

theorem readBy_text : text.ReadBy Decoder.text where
  ok_iff {document value} _ := by
    cases document <;> simp [Decoder.text, text, only]

theorem readBy_bool : bool.ReadBy Decoder.bool where
  ok_iff {document value} _ := by
    cases document <;> simp [Decoder.bool, bool, only]

theorem readBy_int32 : int32.ReadBy Decoder.int32 where
  ok_iff {document value} _ := by
    constructor
    · intro read
      cases document with
      | number found =>
          cases found with
          | integer written =>
              simp only [Decoder.int32] at read
              split_ifs at read with range
              have fits : written < 2 ^ 31 := Int.lt_of_le_of_lt range.2 (by decide)
              rw [int32, only, ← Except.ok.inj read, Int32.toInt_ofInt_of_le range.1 fits]
              rfl
          | fraction _ => cases read
      | null | bool _ | string _ | array _ | object _ => cases read
    · rintro rfl
      exact Inverts.int32.reads value

theorem readBy_int64 : int64.ReadBy Decoder.int64 where
  ok_iff {document value} _ := by
    constructor
    · intro read
      cases document with
      | number found =>
          cases found with
          | integer written =>
              simp only [Decoder.int64] at read
              split_ifs at read with range
              have fits : written < 2 ^ 63 := Int.lt_of_le_of_lt range.2 (by decide)
              rw [int64, only, ← Except.ok.inj read, Int64.toInt_ofInt_of_le range.1 fits]
              rfl
          | fraction _ => cases read
      | null | bool _ | string _ | array _ | object _ => cases read
    · rintro rfl
      exact Inverts.int64.reads value

theorem readBy_choice {known : List (String × Value)} {name : Value → String}
    (named : ∀ text value, Table.get? known text = some value ↔ text = name value) :
    (choice name).ReadBy (Decoder.choice known) where
  ok_iff {document value} _ := by
    have read (text : String) :
        Decoder.choice.named known text = .ok value ↔ text = name value := by
      rw [← named, Decoder.choice.named]
      cases Table.get? known text <;> simp
    cases document with
    | string text => simp [Decoder.choice, choice, read]
    | object members =>
        match members with
        | [] => simp [Decoder.choice, choice]
        | [(text, content)] =>
            cases chosen : Decoder.choice.named known text with
            | error fault =>
                have other : text ≠ name value := fun same =>
                  absurd (chosen.symm.trans ((read text).mpr same)) (by simp)
                simp [Decoder.choice, choice, chosen, other, bind, Except.bind]
            | ok found =>
                have same : found = value ↔ text = name value := by simp [← read, chosen]
                cases content <;>
                  simp [Decoder.choice, choice, chosen, same, bind, Except.bind, pure, Except.pure,
                    throw, throwThe, MonadExceptOf.throw]
        | _ :: _ :: _ => simp [Decoder.choice, choice]
    | null | bool _ | number _ | array _ => simp [Decoder.choice, choice]

namespace ReadBy

theorem optional (read : spelling.ReadBy decode) (filled : ∀ value, decode .null ≠ .ok value) :
    spelling.optional.ReadBy decode.optional where
  ok_iff {document value} ordered := by
    unfold Decoder.optional
    split
    · cases value with
      | none => simp [Spelling.optional]
      | some value =>
          have unspelled := fun spelled => filled value ((read.ok_iff .null).mpr spelled)
          simpa [Spelling.optional] using unspelled
    · next given =>
        cases value with
        | none => cases decode document <;> simpa [Spelling.optional, Except.map] using given
        | some value =>
            rw [Spelling.optional, ← read.ok_iff ordered]
            cases decode document <;> simp [Except.map]

/-- Items are read one by one. -/
theorem items (read : spelling.ReadBy decode) {items : List Json}
    (ordered : ∀ item ∈ items, item.Ordered) {values : List Value} :
    items.mapM decode = .ok values ↔ List.Forall₂ spelling items values := by
  induction items generalizing values with
  | nil => cases values <;> simp [pure, Except.pure]
  | cons item rest ih =>
      have first {value : Value} : decode item = .ok value ↔ spelling item value :=
        read.ok_iff (ordered item List.mem_cons_self)
      have later {values : List Value} :
          rest.mapM decode = .ok values ↔ List.Forall₂ spelling rest values :=
        ih fun other present => ordered other (List.mem_cons_of_mem item present)
      rw [List.mapM_cons]
      constructor
      · intro found
        cases decoded : decode item with
        | error fault => simp [decoded, bind, Except.bind] at found
        | ok value =>
            cases others : rest.mapM decode with
            | error fault => simp [decoded, others, bind, Except.bind] at found
            | ok remaining =>
                obtain rfl : value :: remaining = values := by
                  simpa [decoded, others, bind, Except.bind, pure, Except.pure] using found
                exact .cons (first.mp decoded) (later.mp others)
      · intro spelled
        cases spelled with
        | cons one others =>
            simp [first.mpr one, later.mpr others, bind, Except.bind, pure, Except.pure]

theorem list (read : spelling.ReadBy decode) : spelling.list.ReadBy (Decoder.list decode) where
  ok_iff {document values} ordered := by
    cases document with
    | array items =>
        refine (read.items fun item present => ordered.item present).trans ?_
        simp [Spelling.list]
    | null | bool _ | number _ | string _ | object _ => simp [Decoder.list, Spelling.list]

/-- What a field holds does not change when its decoder is replaced by the spelling. -/
theorem field (read : spelling.ReadBy decode) {members : List (String × Json)}
    (ordered : ∀ {name shown}, Table.get? members name = some shown → shown.Ordered)
    {name : String} {absent : Option Value} {value : Value} :
    (RecordReader.fieldWith name decode absent).ofMembers members = .ok value ↔
      spelling.Fills absent (Table.get? members name) value := by
  rw [RecordReader.ofMembers_fieldWith_eq_ok_iff]
  cases found : Table.get? members name with
  | none =>
      constructor
      · rintro ⟨⟩
        next fallback => exact .missing fallback
      · rintro ⟨⟩
        next fallback => exact .missing fallback
  | some document =>
      constructor
      · rintro ⟨spelled⟩
        exact .shown ((read.ok_iff (ordered found)).mp spelled)
      · rintro ⟨spelled⟩
        exact .shown ((read.ok_iff (ordered found)).mpr spelled)

theorem record {reader : RecordReader Value} (positional : reader.Positional)
    (sound : reader.Sound) {fields : List (String × Json) → Value → Prop}
    (each : ∀ {members value},
      (∀ {name shown}, Table.get? members name = some shown → shown.Ordered) →
        (reader.ofMembers members = .ok value ↔ fields members value)) (name : String) :
    (Spelling.record reader.names fields).ReadBy (Decoder.record name reader) where
  ok_iff {document value} ordered := by
    rw [positional.record_eq_ok_iff sound ordered]
    constructor
    · rintro ⟨members, laid, found⟩
      exact ⟨members, laid, (each (laid.ordered ordered)).mp found⟩
    · rintro ⟨members, laid, found⟩
      exact ⟨members, laid, (each (laid.ordered ordered)).mpr found⟩

end ReadBy

end Spelling

end GaleraControl
