import Spacing.Config.File
import Spacing.Proofs.Loading
import Spacing.Proofs.Whole
import Spacing.Proofs.Writing

namespace Spacing

namespace Value

/-- A value without content: null, false, zero of any kind and sign, or no items at all. -/
inductive Vacant : Value → Prop
  | null : Vacant .null
  | false : Vacant (.scalar (.bool false))
  | zero : Vacant (.scalar (.int 0))
  | float (x : Float) (origin : Nat) (zero : x.toBits = 0 ∨ x.toBits = 0x8000000000000000) :
    Vacant (.scalar (.float x origin))
  | text : Vacant (.scalar (.str []))
  | bytes : Vacant (.scalar (.bytes []))
  | tuple : Vacant (.tuple [])
  | list : Vacant (.list [])
  | map : Vacant (.map [])
  | ordered : Vacant (.ordered [])
  | set : Vacant (.set [])

inductive IsOne : Value → Prop
  | int : IsOne (.scalar (.int 1))
  | true : IsOne (.scalar (.bool true))
  | float (x : Float) (origin : Nat) (one : x.toBits = 0x3FF0000000000000) :
    IsOne (.scalar (.float x origin))

theorem isFalsy_iff {v : Value} : v.isFalsy = true ↔ v.Vacant := by
  constructor
  · intro falsy
    cases v with
    | scalar value =>
      cases value with
      | null => exact .null
      | bool value =>
        cases value
        · exact .false
        · cases falsy
      | int value =>
        obtain rfl : value = 0 := by simpa [isFalsy, Scalar.isFalsy, Scalar.integer?] using falsy
        exact .zero
      | float x origin =>
        have number : wholeNumber? x = some 0 := by
          simpa [isFalsy, Scalar.isFalsy, Scalar.integer?] using falsy
        exact .float x origin (wholeNumber?_eq_zero_iff.1 number)
      | date _ => cases falsy
      | moment _ => cases falsy
      | str text =>
        rw [List.isEmpty_iff.1 falsy]
        exact .text
      | bytes value =>
        rw [List.isEmpty_iff.1 falsy]
        exact .bytes
    | tuple items =>
      rw [List.isEmpty_iff.1 falsy]
      exact .tuple
    | list items =>
      rw [List.isEmpty_iff.1 falsy]
      exact .list
    | map entries =>
      rw [List.isEmpty_iff.1 falsy]
      exact .map
    | ordered entries =>
      rw [List.isEmpty_iff.1 falsy]
      exact .ordered
    | set keys =>
      rw [List.isEmpty_iff.1 falsy]
      exact .set
    | again _ => cases falsy
  · intro vacant
    cases vacant with
    | float x origin zero =>
      have number := wholeNumber?_eq_zero_iff.2 zero
      simp [isFalsy, Scalar.isFalsy, Scalar.integer?, number]
    | _ => rfl

theorem equalsOne_iff {v : Value} : v.equalsOne = true ↔ v.IsOne := by
  constructor
  · intro equal
    cases v with
    | scalar value =>
      cases value with
      | bool value =>
        cases value
        · cases equal
        · exact .true
      | int value =>
        obtain rfl : value = 1 := by simpa [equalsOne, Scalar.integer?] using equal
        exact .int
      | float x origin =>
        have number : wholeNumber? x = some 1 := by simpa [equalsOne, Scalar.integer?] using equal
        exact .float x origin (wholeNumber?_eq_one_iff.1 number)
      | _ => cases equal
    | _ => cases equal
  · intro one
    cases one with
    | float x origin one =>
      have number := wholeNumber?_eq_one_iff.2 one
      simp [equalsOne, Scalar.integer?, number]
    | _ => rfl

end Value

namespace Config

open Value (field?)

/-- No schema is named, or the first one. -/
def SchemaIsCurrent (entries : List (Key × Value)) : Prop :=
  ∀ version, field? entries "schema_version".toList = some version → version.IsOne

/-- The outcome for the value of a document, faults by their kinds. A schema that is not current fails
whatever else there is; the kind of its fault hangs on whether it can be written. -/
inductive Decided (document : Value) : Except Fault.Kind Config → Prop
  | vacant (nothing : document.Vacant) : Decided document (.ok ⟨⟨4, by decide⟩⟩)
  | shapeless (something : ¬ document.Vacant) (shape : document.entries? = none) :
    Decided document (.error .runtime)
  | foreign {entries : List (Key × Value)} {version : Value}
    (shape : document.entries? = some entries)
    (named : field? entries "schema_version".toList = some version) (other : ¬ version.IsOne)
    (writable : version.isWritable = true) : Decided document (.error .runtime)
  | unwritable {entries : List (Key × Value)} {version : Value}
    (shape : document.entries? = some entries)
    (named : field? entries "schema_version".toList = some version) (other : ¬ version.IsOne)
    (unwritable : version.isWritable = false) : Decided document (.error .value)
  | absent {entries : List (Key × Value)} (shape : document.entries? = some entries)
    (current : SchemaIsCurrent entries) (absent : field? entries "tab_width".toList = none) :
    Decided document (.ok ⟨⟨4, by decide⟩⟩)
  | given {entries : List (Key × Value)} {columns : Nat}
    (shape : document.entries? = some entries) (current : SchemaIsCurrent entries)
    (given : field? entries "tab_width".toList = some (.scalar (.int columns)))
    (positive : 1 ≤ columns) : Decided document (.ok ⟨⟨columns, positive⟩⟩)
  | refused {entries : List (Key × Value)} {value : Value}
    (shape : document.entries? = some entries) (current : SchemaIsCurrent entries)
    (given : field? entries "tab_width".toList = some value)
    (other : ∀ columns : Nat, 1 ≤ columns → value ≠ .scalar (.int columns)) :
    Decided document (.error .value)

theorem ofEntries_putAll {entries : List (Key × Value)} (apart : Key.Apart entries) :
    ofEntries (Key.putAll defaults entries) = ofEntries entries := by
  unfold ofEntries
  rw [Value.field?_putAll apart]
  cases field? entries "tab_width".toList with
  | none => rfl
  | some value => rfl

theorem ofMapping_of_current {entries : List (Key × Value)} (apart : Key.Apart entries)
    (current : SchemaIsCurrent entries) : ofMapping entries = ofEntries entries := by
  rw [← ofEntries_putAll apart, ofMapping]
  cases named : field? entries "schema_version".toList with
  | none => rfl
  | some version => exact if_pos (Value.equalsOne_iff.2 (current version named))

theorem ofMapping_of_foreign {entries : List (Key × Value)} {version : Value}
    (named : field? entries "schema_version".toList = some version) (other : ¬ version.IsOne) :
    ofMapping entries = .error (.about version (.unsupportedSchema version)) := by
  rw [ofMapping, named]
  exact if_neg fun equal => other (Value.equalsOne_iff.1 equal)

theorem ofDocument_of_entries {document : Value} {entries : List (Key × Value)}
    (shape : document.entries? = some entries) : ofDocument document = ofMapping entries := by
  have empty : (if entries.isEmpty then ofMapping [] else ofMapping entries) = ofMapping entries := by
    split
    · next falsy => rw [List.isEmpty_iff.1 falsy]
    · rfl
  cases document with
  | map held =>
    obtain rfl : held = entries := Option.some.inj shape
    exact empty
  | ordered held =>
    obtain rfl : held = entries := Option.some.inj shape
    exact empty
  | _ => cases shape

theorem ofDocument_of_vacant {document : Value} (nothing : document.Vacant) :
    ofDocument document = .ok .standard :=
  if_pos (Value.isFalsy_iff.2 nothing)

theorem ofDocument_of_shapeless {document : Value} (something : ¬ document.Vacant)
    (shape : document.entries? = none) : ofDocument document = .error .notMapping := by
  unfold ofDocument
  rw [if_neg fun falsy => something (Value.isFalsy_iff.1 falsy)]
  cases document with
  | map held => cases shape
  | ordered held => cases shape
  | _ => rfl

theorem ofTabWidth_of_positive {columns : Nat} (positive : 1 ≤ columns) :
    ofTabWidth (.scalar (.int columns)) = .ok ⟨⟨columns, positive⟩⟩ := by
  have more : 0 < columns := positive
  simp [ofTabWidth, TabWidth.of, more]

theorem kind_about (value : Value) {fault : Fault} :
    (fault.about value).kind = if value.isWritable then fault.kind else .value := by
  unfold Fault.about
  split <;> rfl

theorem kind_ofTabWidth {value : Value}
    (other : ∀ columns : Nat, 1 ≤ columns → value ≠ .scalar (.int columns)) :
    (ofTabWidth value).mapError Fault.kind = .error .value := by
  unfold ofTabWidth
  split
  · next columns =>
    have small : columns < 1 := Int.not_le.1 fun large =>
      other columns.toNat (by omega) (by rw [Int.toNat_of_nonneg (by omega)])
    rw [TabWidth.of_eq_error_iff.2 ⟨small, rfl⟩]
    exact congrArg Except.error ((kind_about _).trans (ite_self _))
  · exact congrArg Except.error ((kind_about _).trans (ite_self _))

section Outcome

variable {document : Value} (apart : document.KeysApart)
include apart

theorem ofDocument_of_current {entries : List (Key × Value)}
    (shape : document.entries? = some entries) (current : SchemaIsCurrent entries) :
    ofDocument document = ofEntries entries := by
  rw [ofDocument_of_entries shape, ofMapping_of_current (apart entries shape) current]

theorem outcome_of_decided {outcome : Except Fault.Kind Config} (decided : Decided document outcome) :
    (ofDocument document).mapError Fault.kind = outcome := by
  cases decided with
  | vacant nothing =>
    rw [ofDocument_of_vacant nothing]
    rfl
  | shapeless something shape =>
    rw [ofDocument_of_shapeless something shape]
    rfl
  | foreign shape named other writable =>
    rw [ofDocument_of_entries shape, ofMapping_of_foreign named other, Fault.about, if_pos writable]
    rfl
  | unwritable shape named other unwritable =>
    rw [ofDocument_of_entries shape, ofMapping_of_foreign named other, Fault.about, unwritable]
    rfl
  | absent shape current absent =>
    rw [ofDocument_of_current apart shape current, ofEntries, absent]
    rfl
  | given shape current given positive =>
    rw [ofDocument_of_current apart shape current, ofEntries, given]
    exact congrArg (Except.mapError Fault.kind) (ofTabWidth_of_positive positive)
  | refused shape current given other =>
    rw [ofDocument_of_current apart shape current, ofEntries, given]
    exact kind_ofTabWidth other

omit apart in
theorem exists_decided (document : Value) : ∃ outcome, Decided document outcome := by
  by_cases nothing : document.Vacant
  · exact ⟨_, .vacant nothing⟩
  cases shape : document.entries? with
  | none => exact ⟨_, .shapeless nothing shape⟩
  | some entries =>
    by_cases current : SchemaIsCurrent entries
    · cases given : field? entries "tab_width".toList with
      | none => exact ⟨_, .absent shape current given⟩
      | some value =>
        by_cases usable : ∃ columns : Nat, 1 ≤ columns ∧ value = .scalar (.int columns)
        · obtain ⟨columns, positive, rfl⟩ := usable
          exact ⟨_, .given shape current given positive⟩
        · exact ⟨_, .refused shape current given fun columns positive same =>
            usable ⟨columns, positive, same⟩⟩
    · obtain ⟨version, unlike⟩ := Classical.not_forall.1 current
      obtain ⟨named, other⟩ := Classical.not_imp.1 unlike
      cases writable : version.isWritable with
      | true => exact ⟨_, .foreign shape named other writable⟩
      | false => exact ⟨_, .unwritable shape named other writable⟩

theorem outcome_iff_decided (outcome : Except Fault.Kind Config) :
    (ofDocument document).mapError Fault.kind = outcome ↔ Decided document outcome := by
  refine ⟨fun reached => ?_, outcome_of_decided apart⟩
  obtain ⟨other, decided⟩ := exists_decided document
  rwa [← reached, outcome_of_decided apart decided]

theorem ofDocument_congr {other : Value} (apart' : other.KeysApart)
    {entries entries' : List (Key × Value)} (shape : document.entries? = some entries)
    (shape' : other.entries? = some entries')
    (version : field? entries "schema_version".toList = field? entries' "schema_version".toList)
    (width : field? entries "tab_width".toList = field? entries' "tab_width".toList) :
    ofDocument document = ofDocument other := by
  rw [ofDocument_of_entries shape, ofDocument_of_entries shape', ofMapping, ofMapping, version,
    ofEntries_putAll (apart entries shape), ofEntries_putAll (apart' entries' shape'), ofEntries,
    ofEntries, width]

omit apart in
theorem ofFile_of_read {read : Text → Except Yaml.Fault Value} {content : Text}
    (loaded : read content = .ok document) : ofFile read (some content) = ofDocument document := by
  simp only [ofFile, loaded]

end Outcome

/-- Every document that is read, by whatever reader, has its outcome decided by what it is and by the
two entries that are known, as long as its keys are apart. If its schema is current, the outcome is
the one its entries have on their own. What is told of it can be written if no integer in it has too
many digits. -/
theorem documents_decide_settings (read : Text → Except Yaml.Fault Value) (content : Text)
    (document : Value) :
    (read content = .ok document → ofFile read (some content) = ofDocument document) ∧
    (Yaml.read content = .ok document → document.KeysApart) ∧
    (document.KeysApart →
      (∀ outcome, (ofDocument document).mapError Fault.kind = outcome ↔ Decided document outcome) ∧
      ∀ entries, document.entries? = some entries →
        (SchemaIsCurrent entries → ofDocument document = ofEntries entries) ∧
        ∀ other entries', other.KeysApart → other.entries? = some entries' →
          field? entries "schema_version".toList = field? entries' "schema_version".toList →
          field? entries "tab_width".toList = field? entries' "tab_width".toList →
          ofDocument document = ofDocument other) ∧
    (document.isWritable = true ↔
      ∀ n, document.Holds n → (Text.ofNat n.natAbs).length ≤ maxDigits) := by
  refine ⟨ofFile_of_read, Yaml.keysApart_of_read, fun apart => ⟨outcome_iff_decided apart, ?_⟩, ?_⟩
  · intro entries shape
    refine ⟨ofDocument_of_current apart shape, ?_⟩
    intro other entries' apart' shape' version width
    exact ofDocument_congr apart apart' shape shape' version width
  · rw [Value.isWritable_iff]
    simp only [Text.isWritable_iff]

theorem documents_decide_settings_read :
    ∃ document entries, Yaml.read "schema_version: true\ntab_width: 8\n".toList = .ok document ∧
      document.entries? = some entries ∧ SchemaIsCurrent entries ∧
      field? entries "tab_width".toList = some (.scalar (.int 8)) ∧
      ofFile Yaml.read (some "schema_version: true\ntab_width: 8\n".toList) = ofEntries entries := by
  have computed : (ofFile Yaml.read (some "schema_version: true\ntab_width: 8\n".toList)).toOption =
      some ⟨⟨8, by decide⟩⟩ := by
    decide +kernel
  cases loaded : Yaml.read "schema_version: true\ntab_width: 8\n".toList with
  | error fault =>
    simp only [ofFile, loaded] at computed
    cases computed
  | ok document =>
    obtain ⟨reach, keys, decide, _⟩ := documents_decide_settings Yaml.read _ document
    have reached := reach loaded
    obtain ⟨decided, entries⟩ := decide (keys loaded)
    have outcome : (ofDocument document).mapError Fault.kind = .ok ⟨⟨8, by decide⟩⟩ := by
      rw [reached] at computed
      cases settled : ofDocument document with
      | error fault =>
        rw [settled] at computed
        cases computed
      | ok config =>
        rw [settled] at computed
        exact congrArg Except.ok (Option.some.inj computed)
    cases (decided _).1 outcome with
    | given shape current given positive =>
      exact ⟨document, _, rfl, shape, current, given, reached.trans ((entries _ shape).1 current)⟩

/-- A schema that has too many digits to be written fails by that. -/
theorem not_every_foreign_schema_runtime :
    ¬ ∀ (document : Value) (entries : List (Key × Value)) (version : Value), document.KeysApart →
      document.entries? = some entries →
      field? entries "schema_version".toList = some version → ¬ version.IsOne →
      (ofDocument document).mapError Fault.kind = .error .runtime := by
  intro every
  let version : Value := .scalar (.int (Nat.pow 16 3572))
  let entries : List (Key × Value) := [(Key.ofText "schema_version".toList, version)]
  have apart : (Value.map entries).KeysApart := by
    rintro _ ⟨⟩
    exact List.pairwise_singleton ..
  have other : ¬ version.IsOne := fun one =>
    absurd (Value.equalsOne_iff.2 one) (by decide +kernel)
  have outcome := outcome_of_decided apart (.unwritable rfl rfl other (by decide +kernel))
  rw [every _ entries version apart rfl rfl other] at outcome
  cases outcome

end Config
end Spacing
