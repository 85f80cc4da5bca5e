import Mathlib.Algebra.Order.Ring.Int
import Mathlib.Data.List.Basic

/-! The protobuf wire format, from the writer's side.
A message is given as the payloads of its fields, which its bytes determine. -/

namespace Protobuf

abbrev Bytes := List UInt8

/-- Seven bits a byte, lowest first, the top bit set on every byte but the last. -/
def varintDigits : Nat → Nat → Bytes
  | 0, _ => []
  | fuel + 1, value =>
    if value < 128 then [UInt8.ofNat value]
    else UInt8.ofNat (value % 128 + 128) :: varintDigits fuel (value / 128)

def varint (value : Nat) : Bytes := varintDigits (value + 1) value

theorem varintDigits_fuel {fuel other value : Nat} (enough : value < fuel) (enoughToo : value < other) :
    varintDigits fuel value = varintDigits other value := by
  induction fuel generalizing other value with
  | zero => omega
  | succ fuel ih =>
    obtain ⟨other, rfl⟩ : ∃ less, other = less + 1 := ⟨other - 1, by omega⟩
    unfold varintDigits
    split
    · rfl
    · have shorter : value / 128 < fuel := by omega
      have shorterToo : value / 128 < other := by omega
      rw [ih shorter shorterToo]

theorem varint_eq (value : Nat) :
    varint value =
      if value < 128 then [UInt8.ofNat value] else UInt8.ofNat (value % 128 + 128) :: varint (value / 128) := by
  rw [varint, varintDigits]
  split
  · rfl
  · have shorter : value / 128 < value := by omega
    rw [varint, varintDigits_fuel shorter (Nat.lt_succ_self _)]

variable {first second : Bytes}

/-- No varint continues another one, so the number and what follows it can be told apart. -/
theorem varint_append_inj {left right : Nat}
    (same : varint left ++ first = varint right ++ second) : left = right ∧ first = second := by
  induction left using Nat.strongRecOn generalizing right with
  | ind left ih =>
    rw [varint_eq left, varint_eq right] at same
    by_cases small : left < 128 <;> by_cases smallToo : right < 128
    · rw [if_pos small, if_pos smallToo, List.singleton_append, List.singleton_append] at same
      obtain ⟨byte, rest⟩ := List.cons.inj same
      have number := congrArg UInt8.toNat byte
      simp only [UInt8.toNat_ofNat'] at number
      exact ⟨by omega, rest⟩
    · rw [if_pos small, if_neg smallToo, List.singleton_append, List.cons_append] at same
      have number := congrArg UInt8.toNat (List.cons.inj same).1
      simp only [UInt8.toNat_ofNat'] at number
      omega
    · rw [if_neg small, if_pos smallToo, List.singleton_append, List.cons_append] at same
      have number := congrArg UInt8.toNat (List.cons.inj same).1
      simp only [UInt8.toNat_ofNat'] at number
      omega
    · rw [if_neg small, if_neg smallToo, List.cons_append, List.cons_append] at same
      obtain ⟨byte, rest⟩ := List.cons.inj same
      have number := congrArg UInt8.toNat byte
      simp only [UInt8.toNat_ofNat'] at number
      obtain ⟨high, follows⟩ := ih (left / 128) (by omega) rest
      exact ⟨by omega, follows⟩

/-- A field's content, in one of the two wire types a writer of these messages uses. -/
inductive Payload where
  | varint (value : Nat)
  | delimited (content : Bytes)
deriving DecidableEq

def Payload.wireType : Payload → Nat
  | .varint _ => 0
  | .delimited _ => 2

def Payload.encode : Payload → Bytes
  | .varint value => Protobuf.varint value
  | .delimited content => Protobuf.varint content.length ++ content

structure Field where
  number : Nat
  payload : Payload
deriving DecidableEq

def Field.encode (field : Field) : Bytes := varint (field.number * 8 + field.payload.wireType) ++ field.payload.encode

def encodeFields (fields : List Field) : Bytes := fields.flatMap Field.encode

theorem encode_append_inj {left right : Payload} (wireType : left.wireType = right.wireType)
    (same : left.encode ++ first = right.encode ++ second) : left = right ∧ first = second := by
  cases left with
  | varint value =>
    cases right with
    | varint other =>
      obtain ⟨rfl, rest⟩ := varint_append_inj same
      exact ⟨rfl, rest⟩
    | delimited content => cases wireType
  | delimited content =>
    cases right with
    | varint other => cases wireType
    | delimited other =>
      simp only [Payload.encode, List.append_assoc] at same
      obtain ⟨length, rest⟩ := varint_append_inj same
      obtain ⟨rfl, follows⟩ := List.append_inj rest length
      exact ⟨rfl, follows⟩

theorem Payload.wireType_lt (payload : Payload) : payload.wireType < 8 := by
  cases payload <;> simp [Payload.wireType]

theorem field_append_inj {left right : Field}
    (same : left.encode ++ first = right.encode ++ second) : left = right ∧ first = second := by
  obtain ⟨number, payload⟩ := left
  obtain ⟨numberToo, payloadToo⟩ := right
  simp only [Field.encode, List.append_assoc] at same
  obtain ⟨tag, rest⟩ := varint_append_inj same
  have bound := payload.wireType_lt
  have boundToo := payloadToo.wireType_lt
  obtain ⟨rfl, follows⟩ := encode_append_inj (by omega) rest
  have numbers : number = numberToo := by omega
  exact ⟨by rw [numbers], follows⟩

theorem Field.encode_ne_nil (field : Field) : field.encode ≠ [] := by
  rw [Field.encode, varint_eq]
  split <;> simp

theorem encodeFields_inj {left right : List Field} (same : encodeFields left = encodeFields right) : left = right := by
  induction left generalizing right with
  | nil =>
    cases right with
    | nil => rfl
    | cons field fields =>
      rw [encodeFields, encodeFields, List.flatMap_nil, List.flatMap_cons] at same
      exact (field.encode_ne_nil (List.append_eq_nil_iff.mp same.symm).1).elim
  | cons field fields ih =>
    cases right with
    | nil =>
      rw [encodeFields, encodeFields, List.flatMap_nil, List.flatMap_cons] at same
      exact (field.encode_ne_nil (List.append_eq_nil_iff.mp same).1).elim
    | cons other others =>
      rw [encodeFields, encodeFields, List.flatMap_cons, List.flatMap_cons] at same
      obtain ⟨rfl, rest⟩ := field_append_inj same
      rw [ih rest]

/-- The fields of a message whose slots are numbered from the given field on. -/
def numbered (first : Nat) : List (List Payload) → List Field
  | [] => []
  | slot :: slots => slot.map (Field.mk first) ++ numbered (first + 1) slots

def encodeMessage (slots : List (List Payload)) : Bytes := encodeFields (numbered 1 slots)

theorem numbered_from {first : Nat} {slots : List (List Payload)} {field : Field}
    (member : field ∈ numbered first slots) : first ≤ field.number := by
  induction slots generalizing first with
  | nil => cases member
  | cons slot slots ih =>
    rcases List.mem_append.mp member with own | later
    · obtain ⟨payload, _, rfl⟩ := List.mem_map.mp own
      exact Nat.le_refl first
    · have above := ih later
      omega

theorem numbered_filter (first : Nat) (slot : List Payload) (slots : List (List Payload)) :
    (numbered first (slot :: slots)).filter (fun field => field.number = first) = slot.map (Field.mk first) := by
  rw [numbered, List.filter_append, List.filter_eq_self.mpr, List.filter_eq_nil_iff.mpr, List.append_nil]
  · intro field member
    have above := numbered_from member
    simp only [decide_eq_true_eq]
    omega
  · intro field member
    obtain ⟨payload, _, rfl⟩ := List.mem_map.mp member
    simp

variable {left right : List (List Payload)}

theorem numbered_inj {first : Nat} (arity : left.length = right.length)
    (same : numbered first left = numbered first right) : left = right := by
  induction left generalizing first right with
  | nil => exact (List.length_eq_zero_iff.mp arity.symm).symm
  | cons slot slots ih =>
    cases right with
    | nil => cases arity
    | cons other others =>
      have own := congrArg (List.filter (fun field => field.number = first)) same
      rw [numbered_filter, numbered_filter] at own
      have slotSame : slot = other := List.map_injective_iff.mpr (fun _ _ equal => (Field.mk.inj equal).2) own
      subst slotSame
      rw [numbered, numbered] at same
      rw [ih (Nat.succ.inj arity) (List.append_cancel_left same)]

theorem encodeMessage_inj (arity : left.length = right.length)
    (same : encodeMessage left = encodeMessage right) : left = right :=
  numbered_inj arity (encodeFields_inj same)

def utf8 (text : String) : Bytes := text.toList.flatMap String.utf8EncodeChar

def bytesSlot (content : Bytes) : List Payload := if content = [] then [] else [.delimited content]

def stringSlot (text : String) : List Payload := bytesSlot (utf8 text)

def uint64Slot (value : UInt64) : List Payload := if value = 0 then [] else [.varint value.toNat]

def int64Slot (value : Int64) : List Payload := uint64Slot value.toUInt64

/-- Enumerations are written as sign-extended 32-bit numbers. -/
def enumSlot (value : Int32) : List Payload := int64Slot value.toInt64

def boolSlot (value : Bool) : List Payload := if value then [.varint 1] else []

def repeatedSlot (messages : List (List (List Payload))) : List Payload :=
  messages.map (fun slots => .delimited (encodeMessage slots))

def messageSlot (message : Option (List (List Payload))) : List Payload := repeatedSlot message.toList

/-- A map is written entry by entry, each one a message of its key and its value. -/
def mapSlot (entries : List (String × String)) : List Payload :=
  repeatedSlot (entries.map (fun entry => [stringSlot entry.1, stringSlot entry.2]))

theorem utf8_inj {left right : String} (same : utf8 left = utf8 right) : left = right := by
  have encoded : left.toList.utf8Encode = right.toList.utf8Encode := congrArg List.toByteArray same
  have chars := congrArg ByteArray.utf8Decode? encoded
  rw [List.utf8Decode?_utf8Encode, List.utf8Decode?_utf8Encode, Option.some.injEq] at chars
  exact String.toList_inj.mp (Array.toList_inj.mpr chars)

theorem bytesSlot_inj {left right : Bytes} (same : bytesSlot left = bytesSlot right) : left = right := by
  unfold bytesSlot at same
  split at same <;> split at same <;> simp_all

theorem stringSlot_inj {left right : String} (same : stringSlot left = stringSlot right) : left = right :=
  utf8_inj (bytesSlot_inj same)

theorem uint64Slot_inj {left right : UInt64} (same : uint64Slot left = uint64Slot right) : left = right := by
  unfold uint64Slot at same
  split at same <;> split at same <;> simp_all [UInt64.toNat_inj]

theorem int64Slot_inj {left right : Int64} (same : int64Slot left = int64Slot right) : left = right := by
  have bits := uint64Slot_inj same
  cases left; cases right
  exact congrArg Int64.ofUInt64 bits

theorem enumSlot_inj {left right : Int32} (same : enumSlot left = enumSlot right) : left = right := by
  have wide := congrArg Int64.toInt32 (int64Slot_inj same)
  rwa [Int32.toInt32_toInt64, Int32.toInt32_toInt64] at wide

variable {α : Type} {slots : α → List (List Payload)}

theorem boolSlot_inj {left right : Bool} (same : boolSlot left = boolSlot right) : left = right := by
  cases left <;> cases right <;> first | rfl | cases same

theorem repeatedSlot_inj (arity : ∀ one other, (slots one).length = (slots other).length)
    (injective : ∀ one other, slots one = slots other → one = other) {left right : List α}
    (same : repeatedSlot (left.map slots) = repeatedSlot (right.map slots)) : left = right := by
  rw [repeatedSlot, repeatedSlot, List.map_map, List.map_map] at same
  refine List.map_injective_iff.mpr ?_ same
  intro one other equal
  exact injective one other (encodeMessage_inj (arity one other) (Payload.delimited.inj equal))

theorem messageSlot_inj (arity : ∀ one other, (slots one).length = (slots other).length)
    (injective : ∀ one other, slots one = slots other → one = other) {left right : Option α}
    (same : messageSlot (left.map slots) = messageSlot (right.map slots)) : left = right := by
  rw [messageSlot, messageSlot, Option.toList_map, Option.toList_map] at same
  have lists := repeatedSlot_inj arity injective same
  cases left <;> cases right <;> simp_all

theorem mapSlot_inj {left right : List (String × String)} (same : mapSlot left = mapSlot right) : left = right := by
  refine repeatedSlot_inj (fun _ _ => rfl) ?_ same
  intro one other equal
  obtain ⟨key, rest⟩ := List.cons.inj equal
  exact Prod.ext (stringSlot_inj key) (stringSlot_inj (List.cons.inj rest).1)

def Payload.size (number : Nat) (payload : Payload) : Nat := (Field.mk number payload).encode.length

/-- Two slots that take equally many bytes under any number. -/
def SameSize (left right : List Payload) : Prop :=
  ∀ number, (left.map (Payload.size number)).sum = (right.map (Payload.size number)).sum

theorem SameSize.refl (slot : List Payload) : SameSize slot slot := fun _ => rfl

theorem size_delimited {left right : Bytes} (number : Nat) (same : left.length = right.length) :
    Payload.size number (.delimited left) = Payload.size number (.delimited right) := by
  simp [Payload.size, Field.encode, Payload.encode, Payload.wireType, same]

theorem sameSize_repeatedSlot {left right : List (List (List Payload))}
    (same : List.Forall₂ (fun one other => (encodeMessage one).length = (encodeMessage other).length) left right) :
    SameSize (repeatedSlot left) (repeatedSlot right) := by
  intro number
  induction same with
  | nil => rfl
  | cons equal _ ih =>
    simp only [repeatedSlot, List.map_cons, List.sum_cons, size_delimited number equal] at ih ⊢
    rw [ih]

theorem sameSize_mapSlot {left right : List (String × String)} (same : left.Perm right) :
    SameSize (mapSlot left) (mapSlot right) :=
  fun number => (((same.map _).map _).map (Payload.size number)).sum_nat

theorem length_numbered {first : Nat} (same : List.Forall₂ SameSize left right) :
    (encodeFields (numbered first left)).length = (encodeFields (numbered first right)).length := by
  induction same generalizing first with
  | nil => rfl
  | cons equal _ ih =>
    simp only [encodeFields, numbered, List.flatMap_append, List.length_append, List.length_flatMap, List.map_map,
      Function.comp_def] at ih ⊢
    rw [ih]
    exact congrArg (· + _) (equal first)

theorem length_encodeMessage (same : List.Forall₂ SameSize left right) :
    (encodeMessage left).length = (encodeMessage right).length :=
  length_numbered same

end Protobuf
