import Mathlib.Data.Set.List
import MacAgent.Json.Decode
import MacAgent.Json.Encode
import MacAgent.Proofs.Value.AddressForms
import MacAgent.Proofs.Value.Canonical

/-! # Values in JSON and back

What is written of a value in JSON is read as this value. More than that is read: an address in any form,
interfaces in any order and repeated, a key or an entry as an array or with further fields. What each of
these says is kept, and how it was said is not. -/

namespace MacAgent

namespace Json

variable {json : Json} {α β : Type} {a : α} {b : β}

/-! ### Single values -/

theorem decodeParsed_eq_ok_iff {parse : String → Except FormatError α} :
    decodeParsed parse json = .ok a ↔ ∃ text, json = .string text ∧ parse text = .ok a := by
  constructor
  · intro h
    obtain ⟨text, read, parsed⟩ := bind_eq_ok.mp h
    cases json with
    | string value =>
      obtain rfl : value = text := Except.ok.inj read
      cases result : parse value with
      | ok a' =>
        rw [result] at parsed
        obtain rfl : a' = a := Except.ok.inj parsed
        exact ⟨value, rfl, result⟩
      | error e =>
        rw [result] at parsed
        cases parsed
    | null | bool | integer | decimal | array | object => cases read
  · rintro ⟨text, rfl, parsed⟩
    unfold decodeParsed decodeString
    show Except.mapError _ (parse text) = _
    rw [parsed]
    rfl

theorem decodeAddress_eq_ok_iff {a : Address} :
    decodeAddress json = .ok a ↔ ∃ text, json = .string text ∧ Address.parse text = .ok a :=
  decodeParsed_eq_ok_iff

theorem ofName_eq_ok_iff {name : String} {i : Interface} : Interface.ofName name = .ok i ↔ name = i.name := by
  unfold Interface.ofName
  constructor
  · intro h
    split at h
    · obtain rfl := Except.ok.inj h
      rfl
    · cases h
  · rintro rfl
    exact dif_pos i.isName

theorem decodeInterface_eq_ok_iff {i : Interface} : decodeInterface json = .ok i ↔ json = i.toJson := by
  unfold decodeInterface Interface.toJson
  simp only [decodeParsed_eq_ok_iff, ofName_eq_ok_iff, exists_eq_right]

theorem decodeUInt16_eq_ok_iff {n : UInt16} : decodeUInt16 json = .ok n ↔ json = .integer n.toNat := by
  constructor
  · intro h
    cases json with
    | integer value =>
      simp only [decodeUInt16] at h
      split at h
      · rename_i range
        obtain rfl := Except.ok.inj h
        rw [UInt16.toNat_ofNat_of_lt' (show value.toNat < 65536 by omega), Int.toNat_of_nonneg range.1]
      · cases h
    | null | bool | decimal | string | array | object => cases h
  · rintro rfl
    have range : (0 : Int) ≤ n.toNat ∧ (n.toNat : Int) < 65536 := by
      have bound : n.toNat < 65536 := n.toNat_lt
      omega
    simp only [decodeUInt16]
    rw [if_pos range, Int.toNat_natCast, UInt16.ofNat_toNat]

theorem mapM_decodeInterface {items : List Json} {l : List Interface} :
    items.mapM decodeInterface = .ok l ↔ items = l.map Interface.toJson := by
  refine (mapM_eq_pure_iff bind_eq_ok ⟨Except.ok.inj, congrArg _⟩).trans ?_
  rw [← List.forall₂_eq_eq_eq, List.forall₂_map_right_iff]
  exact iff_of_eq (congrArg (List.Forall₂ · items l) (funext₂ fun item i => propext decodeInterface_eq_ok_iff))

theorem decodeInterfaces_eq_ok_iff {s : InterfaceSet} : decodeInterfaces json = .ok s ↔
    ∃ names : List String, json = .array (names.map .string) ∧ (∀ name ∈ names, Interface.IsName name) ∧
      ∀ i, i ∈ s ↔ i.name ∈ names := by
  have listed {l : List Interface} {i : Interface} : i.name ∈ l.map Interface.name ↔ i ∈ l :=
    List.mem_map_of_injective fun _ _ => Interface.eq_of_name_eq
  constructor
  · intro h
    cases json with
    | array items =>
      obtain ⟨l, read, made⟩ := bind_eq_ok.mp h
      obtain rfl := mapM_decodeInterface.mp read
      obtain rfl := Except.ok.inj made
      refine ⟨l.map Interface.name, ?_, ?_, fun i => ?_⟩
      · rw [List.map_map]
        rfl
      · intro name member
        obtain ⟨i, -, rfl⟩ := List.mem_map.mp member
        exact i.isName
      · rw [InterfaceSet.mem_ofList, listed]
    | null | bool | integer | decimal | string | object => cases h
  · rintro ⟨names, rfl, each, members⟩
    obtain ⟨l, rfl⟩ : names ∈ Set.range (List.map Interface.name) := by
      rw [Set.range_list_map]
      exact fun name member => ⟨⟨name, each name member⟩, rfl⟩
    have read : ((l.map Interface.name).map string).mapM decodeInterface = .ok l := by
      rw [mapM_decodeInterface, List.map_map]
      rfl
    refine bind_eq_ok.mpr ⟨l, read, ?_⟩
    refine congrArg Except.ok (InterfaceSet.ext_mem fun i => ?_)
    rw [InterfaceSet.mem_ofList, members, listed]

/-! ### Values of two parts -/

/-- The fields of an object have distinct names. -/
def IsDistinct : Json → Prop
  | object fields => (fields.map (·.1)).Nodup
  | null | bool _ | integer _ | decimal _ | string _ | array _ => True

/-- The value gives two parts, either by their names or by their places. -/
inductive Gives (first second : String) : Json → Json → Json → Prop where
  | object {fields : List (String × Json)} {x y : Json} (first_mem : (first, x) ∈ fields)
    (second_mem : (second, y) ∈ fields) : Gives first second (.object fields) x y
  | array {x y : Json} : Gives first second (.array [x, y]) x y

section Pair

variable {type first second name : String} {decodeFirst : Decoder α} {decodeSecond : Decoder β}
  {fields : List (String × Json)} {value : Json} {a? a?' : Option α} {b? b?' : Option β}

/-- The values of the fields of this name. -/
def valuesOf (name : String) (fields : List (String × Json)) : List Json :=
  (fields.filter (·.1 = name)).map (·.2)

theorem valuesOf_cons_self : valuesOf name ((name, value) :: fields) = value :: valuesOf name fields := by
  simp [valuesOf]

theorem valuesOf_cons_of_ne {other : String} (h : other ≠ name) :
    valuesOf name ((other, value) :: fields) = valuesOf name fields := by
  simp [valuesOf, h]

theorem mem_valuesOf : value ∈ valuesOf name fields ↔ (name, value) ∈ fields := by
  simp [valuesOf]

/-- Where names are distinct, a name has one value or none. -/
theorem valuesOf_distinct (name : String) (distinct : (fields.map (·.1)).Nodup) :
    valuesOf name fields = [] ∨ ∃ value, valuesOf name fields = [value] := by
  induction fields with
  | nil => exact .inl rfl
  | cons field fields ih =>
    obtain ⟨field_name, value⟩ := field
    rw [List.map_cons, List.nodup_cons] at distinct
    by_cases same : field_name = name
    · subst same
      have none_left : valuesOf field_name fields = [] := by
        refine List.eq_nil_iff_forall_not_mem.mpr fun value' member => distinct.1 ?_
        exact List.mem_map.mpr ⟨_, mem_valuesOf.mp member, rfl⟩
      rw [valuesOf_cons_self, none_left]
      exact .inr ⟨value, rfl⟩
    · rw [valuesOf_cons_of_ne same]
      exact ih distinct.2

/-- All values of the name are read, and the last of them replaces the part that was there before. -/
def Replaces (name : String) (decode : Decoder α) (fields : List (String × Json)) (before after : Option α) :
    Prop :=
  ∃ values, (valuesOf name fields).mapM decode = .ok values ∧ values.getLast?.or before = after

section Replaces

variable {decode : Decoder α}

theorem replaces_nil : Replaces name decode [] a? a?' ↔ a? = a?' := by
  constructor
  · rintro ⟨values, read, last⟩
    obtain rfl := Except.ok.inj read
    exact last
  · intro same
    exact ⟨[], rfl, same⟩

theorem replaces_cons_self : Replaces name decode ((name, value) :: fields) a? a?' ↔
    ∃ a, decode value = .ok a ∧ Replaces name decode fields (some a) a?' := by
  have last (a : α) (l : List α) : (a :: l).getLast?.or a? = l.getLast?.or (some a) := by
    cases l with
    | nil => rfl
    | cons a' l => simp [List.getLast?_cons]
  unfold Replaces
  simp only [valuesOf_cons_self, List.mapM_cons, bind_eq_ok]
  constructor
  · rintro ⟨_, ⟨a, read, values, later, made⟩, rfl⟩
    obtain rfl := Except.ok.inj made
    exact ⟨a, read, values, later, (last a values).symm⟩
  · rintro ⟨a, read, values, later, rfl⟩
    exact ⟨a :: values, ⟨a, read, values, later, rfl⟩, last a values⟩

theorem replaces_cons_of_ne {other : String} (h : other ≠ name) :
    Replaces name decode ((other, value) :: fields) a? a?' ↔ Replaces name decode fields a? a?' := by
  unfold Replaces
  rw [valuesOf_cons_of_ne h]

theorem replaces_none_iff (distinct : (fields.map (·.1)).Nodup) :
    Replaces name decode fields none (some a) ↔ ∃ x, (name, x) ∈ fields ∧ decode x = .ok a := by
  unfold Replaces
  simp only [← mem_valuesOf]
  rcases valuesOf_distinct name distinct with none_left | ⟨value, one⟩
  · rw [none_left]
    constructor
    · rintro ⟨values, read, last⟩
      obtain rfl := Except.ok.inj read
      cases last
    · rintro ⟨x, member, -⟩
      cases member
  · simp only [one, List.mem_singleton, exists_eq_left, List.mapM_cons, List.mapM_nil, bind_eq_ok]
    constructor
    · rintro ⟨values, ⟨a', read, rest, made, whole⟩, last⟩
      obtain rfl := Except.ok.inj made
      obtain rfl := Except.ok.inj whole
      obtain rfl := Option.some.inj last
      exact read
    · intro read
      exact ⟨[a], ⟨a, read, [], rfl, rfl⟩, rfl⟩

end Replaces

/-- What a field adds to the parts that have been read. -/
def takeField (first second : String) (decodeFirst : Decoder α) (decodeSecond : Decoder β) :
    Option α × Option β → String × Json → Except DecodeError (Option α × Option β)
  | (a?, b?), (name, value) => do
    if name = first then return (some (← decodeFirst value), b?)
    else if name = second then return (a?, some (← decodeSecond value))
    else return (a?, b?)

theorem decodePair_object : decodePair type first second decodeFirst decodeSecond (.object fields) = (do
    let (a?, b?) ← fields.foldlM (takeField first second decodeFirst decodeSecond) (none, none)
    match a?, b? with
    | none, _ => throw (.missingField first)
    | _, none => throw (.missingField second)
    | some a, some b => return (a, b)) := rfl

/-- The fields of either name replace one part, and other fields none. -/
theorem takeFields_eq_ok_iff (apart : first ≠ second) :
    fields.foldlM (takeField first second decodeFirst decodeSecond) (a?, b?) = .ok (a?', b?') ↔
      Replaces first decodeFirst fields a? a?' ∧ Replaces second decodeSecond fields b? b?' := by
  induction fields generalizing a? b? with
  | nil =>
    rw [replaces_nil, replaces_nil]
    constructor
    · intro h
      exact Prod.mk.inj (Except.ok.inj h)
    · rintro ⟨rfl, rfl⟩
      rfl
  | cons field fields ih =>
    obtain ⟨name, value⟩ := field
    rw [List.foldlM_cons, bind_eq_ok]
    by_cases is_first : name = first
    · subst is_first
      rw [replaces_cons_self, replaces_cons_of_ne apart]
      simp only [takeField, if_true, bind_eq_ok]
      constructor
      · rintro ⟨_, ⟨a, read, taken⟩, later⟩
        obtain rfl := Except.ok.inj taken
        obtain ⟨firsts, seconds⟩ := ih.mp later
        exact ⟨⟨a, read, firsts⟩, seconds⟩
      · rintro ⟨⟨a, read, firsts⟩, seconds⟩
        exact ⟨_, ⟨a, read, rfl⟩, ih.mpr ⟨firsts, seconds⟩⟩
    · by_cases is_second : name = second
      · subst is_second
        rw [replaces_cons_of_ne is_first, replaces_cons_self]
        simp only [takeField, if_neg is_first, if_true, bind_eq_ok]
        constructor
        · rintro ⟨_, ⟨b, read, taken⟩, later⟩
          obtain rfl := Except.ok.inj taken
          obtain ⟨firsts, seconds⟩ := ih.mp later
          exact ⟨firsts, b, read, seconds⟩
        · rintro ⟨firsts, b, read, seconds⟩
          exact ⟨_, ⟨b, read, rfl⟩, ih.mpr ⟨firsts, seconds⟩⟩
      · rw [replaces_cons_of_ne is_first, replaces_cons_of_ne is_second, ← ih]
        simp only [takeField, if_neg is_first, if_neg is_second]
        constructor
        · rintro ⟨_, taken, later⟩
          obtain rfl := Except.ok.inj taken
          exact later
        · intro later
          exact ⟨_, rfl, later⟩

theorem decodePair_object_iff (apart : first ≠ second) (distinct : (fields.map (·.1)).Nodup) :
    decodePair type first second decodeFirst decodeSecond (.object fields) = .ok (a, b) ↔
      (∃ x, (first, x) ∈ fields ∧ decodeFirst x = .ok a) ∧ ∃ y, (second, y) ∈ fields ∧ decodeSecond y = .ok b := by
  rw [← replaces_none_iff distinct, ← replaces_none_iff distinct, ← takeFields_eq_ok_iff apart, decodePair_object,
    bind_eq_ok]
  constructor
  · rintro ⟨⟨a?, b?⟩, taken, done⟩
    cases a? with
    | none => cases done
    | some a' =>
      cases b? with
      | none => cases done
      | some b' =>
        obtain ⟨rfl, rfl⟩ := Prod.mk.inj (Except.ok.inj done)
        exact taken
  · intro taken
    exact ⟨_, taken, rfl⟩

/-- A value is read as a pair if it gives two parts that are read. -/
theorem decodePair_eq_ok_iff (apart : first ≠ second) (distinct : json.IsDistinct) :
    decodePair type first second decodeFirst decodeSecond json = .ok (a, b) ↔
      ∃ x y, Gives first second json x y ∧ decodeFirst x = .ok a ∧ decodeSecond y = .ok b := by
  cases json with
  | object fields =>
    rw [decodePair_object_iff apart distinct]
    constructor
    · rintro ⟨⟨x, first_mem, read⟩, y, second_mem, read'⟩
      exact ⟨x, y, .object first_mem second_mem, read, read'⟩
    · rintro ⟨x, y, gives, read, read'⟩
      cases gives with
      | object first_mem second_mem => exact ⟨⟨x, first_mem, read⟩, y, second_mem, read'⟩
  | array items =>
    constructor
    · intro h
      rcases items with _ | ⟨x, _ | ⟨y, rest⟩⟩
      · cases h
      · obtain ⟨-, -, short⟩ := bind_eq_ok.mp h
        cases short
      · obtain ⟨a', read, later⟩ := bind_eq_ok.mp h
        obtain ⟨b', read', done⟩ := bind_eq_ok.mp later
        cases rest with
        | nil =>
          obtain ⟨rfl, rfl⟩ := Prod.mk.inj (Except.ok.inj done)
          exact ⟨x, y, .array, read, read'⟩
        | cons z rest => cases done
    · rintro ⟨x, y, gives, read, read'⟩
      cases gives with
      | array => exact bind_eq_ok.mpr ⟨a, read, bind_eq_ok.mpr ⟨b, read', rfl⟩⟩
  | null | bool | integer | decimal | string =>
    refine ⟨nofun, ?_⟩
    rintro ⟨x, y, gives, -⟩
    cases gives

end Pair

/-! ### Keys and entries -/

theorem decodeKey_eq_ok_iff {k : Key} (distinct : json.IsDistinct) : decodeKey json = .ok k ↔
    ∃ vlan address, Gives "vlan_id" "eth_addr" json vlan address ∧ decodeUInt16 vlan = .ok k.vlan ∧
      decodeAddress address = .ok k.address := by
  unfold decodeKey
  rw [bind_eq_ok]
  constructor
  · rintro ⟨⟨vlan, address⟩, read, made⟩
    obtain rfl := Except.ok.inj made
    exact (decodePair_eq_ok_iff (by decide) distinct).mp read
  · intro parts
    exact ⟨_, (decodePair_eq_ok_iff (by decide) distinct).mpr parts, rfl⟩

theorem decodeEntry_eq_ok_iff {e : Entry} (distinct : json.IsDistinct) : decodeEntry json = .ok e ↔
    ∃ key interfaces, Gives "key" "intfs" json key interfaces ∧ decodeKey key = .ok e.key ∧
      decodeInterfaces interfaces = .ok e.interfaces := by
  unfold decodeEntry
  rw [bind_eq_ok]
  constructor
  · rintro ⟨⟨key, interfaces⟩, read, made⟩
    obtain rfl := Except.ok.inj made
    exact (decodePair_eq_ok_iff (by decide) distinct).mp read
  · intro parts
    exact ⟨_, (decodePair_eq_ok_iff (by decide) distinct).mpr parts, rfl⟩

/-! ### What is written is read back -/

theorem decodeAddress_toJson (a : Address) : decodeAddress a.toJson = .ok a :=
  decodeAddress_eq_ok_iff.mpr ⟨_, rfl, a.parse_render⟩

theorem decodeInterfaces_toJson (s : InterfaceSet) :
    decodeInterfaces (.array (s.toList.map Interface.toJson)) = .ok s := by
  refine decodeInterfaces_eq_ok_iff.mpr ⟨s.toList.map Interface.name, ?_, ?_, fun i => ?_⟩
  · rw [List.map_map]
    rfl
  · intro name member
    obtain ⟨i, -, rfl⟩ := List.mem_map.mp member
    exact i.isName
  · rw [List.mem_map_of_injective fun _ _ => Interface.eq_of_name_eq]
    rfl

theorem decodeKey_toJson (k : Key) : decodeKey k.toJson = .ok k := by
  have distinct : k.toJson.IsDistinct := by
    show ["eth_addr", "vlan_id"].Nodup
    decide
  refine (decodeKey_eq_ok_iff distinct).mpr ⟨_, _, .object ?_ ?_, decodeUInt16_eq_ok_iff.mpr rfl,
    decodeAddress_toJson k.address⟩
  · exact List.mem_cons_of_mem _ List.mem_cons_self
  · exact List.mem_cons_self

theorem decodeEntry_toJson (e : Entry) : decodeEntry e.toJson = .ok e := by
  have distinct : e.toJson.IsDistinct := by
    show ["intfs", "key"].Nodup
    decide
  refine (decodeEntry_eq_ok_iff distinct).mpr ⟨_, _, .object ?_ ?_, decodeKey_toJson e.key,
    decodeInterfaces_toJson e.interfaces⟩
  · exact List.mem_cons_of_mem _ List.mem_cons_self
  · exact List.mem_cons_self

theorem decodeBridge_toJson (b : Bridge) : decodeBridge b.toJson = .ok b := by
  cases b with
  | inline | threaded => rfl

theorem decodeConfig_toJson (c : Config) : decodeConfig c.toJson = .ok c := by
  rcases c with ⟨tracerName, bridge, watchAll⟩
  cases bridge with
  | inline | threaded => rfl

/-- Decoding undoes encoding, and encoding what was decoded changes nothing more. -/
structure Undoes (decode : Decoder α) (encode : α → Json) : Prop where
  back : ∀ v, decode (encode v) = .ok v
  again : ∀ json v, decode json = .ok v → decode (encode v) = decode json

theorem undoes_of_back {decode : Decoder α} {encode : α → Json} (back : ∀ v, decode (encode v) = .ok v) :
    Undoes decode encode :=
  ⟨back, fun _ v read => (back v).trans read.symm⟩

/-- The name is not empty, and holds neither blanks nor commas. -/
def HasPlainName (i : Interface) : Prop := i.name ≠ "" ∧ ∀ c ∈ i.name.toList, Text.isBlank c = false ∧ c ≠ ','

theorem hasPlainName (i : Interface) : HasPlainName i := by
  refine ⟨fun none => i.name_ne_nil ?_, fun c inside => ⟨i.name_noBlank c inside, ?_⟩⟩
  · rw [none]
    rfl
  · rintro rfl
    exact i.comma_notMem inside

/-- What is read from JSON, and what becomes of it when it is written. -/
structure DecodesBack : Prop where
  address : Undoes decodeAddress Address.toJson
  interface : Undoes decodeInterface Interface.toJson
  key : Undoes decodeKey Key.toJson
  entry : Undoes decodeEntry Entry.toJson
  bridge : Undoes decodeBridge Bridge.toJson
  config : Undoes decodeConfig Config.toJson
  named : ∀ json i, decodeInterface json = .ok i → HasPlainName i
  allNamed : ∀ json e, decodeEntry json = .ok e → ∀ i ∈ e.interfaces, HasPlainName i
  /-- An address is read in each form in which it may be written. -/
  addressRead : ∀ json a, decodeAddress json = .ok a ↔ ∃ text, json = .string text ∧ Address.parse text = .ok a
  interfaceRead : ∀ json i, decodeInterface json = .ok i ↔ json = .string i.name
  /-- Further fields do not count, nor does whether there are fields or places. -/
  keyRead : ∀ (json : Json) k, json.IsDistinct → (decodeKey json = .ok k ↔
    ∃ vlan address, Gives "vlan_id" "eth_addr" json vlan address ∧ vlan = .integer k.vlan.toNat ∧
      decodeAddress address = .ok k.address)
  /-- Nor do the order and the repetition of interfaces. -/
  entryRead : ∀ (json : Json) e, json.IsDistinct → (decodeEntry json = .ok e ↔
    ∃ key interfaces, Gives "key" "intfs" json key interfaces ∧ decodeKey key = .ok e.key ∧
      ∃ names : List String, interfaces = .array (names.map .string) ∧ (∀ name ∈ names, Interface.IsName name) ∧
        ∀ i, i ∈ e.interfaces ↔ i.name ∈ names)

theorem decodes_back : DecodesBack where
  address := undoes_of_back decodeAddress_toJson
  interface := undoes_of_back fun _ => decodeInterface_eq_ok_iff.mpr rfl
  key := undoes_of_back decodeKey_toJson
  entry := undoes_of_back decodeEntry_toJson
  bridge := undoes_of_back decodeBridge_toJson
  config := undoes_of_back decodeConfig_toJson
  named _ i _ := hasPlainName i
  allNamed _ _ _ i _ := hasPlainName i
  addressRead _ _ := decodeAddress_eq_ok_iff
  interfaceRead _ _ := decodeInterface_eq_ok_iff
  keyRead json k distinct := by
    simp only [decodeKey_eq_ok_iff distinct, decodeUInt16_eq_ok_iff]
  entryRead json e distinct := by
    simp only [decodeEntry_eq_ok_iff distinct, decodeInterfaces_eq_ok_iff]

end Json

end MacAgent
