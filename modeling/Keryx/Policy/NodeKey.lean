import Keryx.Core.Artifact
import Keryx.Relational.Session

/-! The private key of a node: how it is written down and read back, and what is shown of it. -/

namespace Keryx.Policy
open Keryx.Core Relational

def hexDigits : List Char := "0123456789abcdef".toList

def hexDigit (nibble : UInt8) : Char := hexDigits.getD nibble.toNat '0'

def hexEncode (bytes : Bytes) : List Char :=
  bytes.flatMap fun byte : UInt8 => [hexDigit (byte >>> 4), hexDigit (byte &&& 15)]

def hexValue (ch : Char) : Except String UInt8 :=
  if '0' ≤ ch ∧ ch ≤ '9' then .ok (.ofNat (ch.toNat - '0'.toNat))
  else if 'a' ≤ ch ∧ ch ≤ 'f' then .ok (.ofNat (ch.toNat - 'a'.toNat + 10))
  else if 'A' ≤ ch ∧ ch ≤ 'F' then .ok (.ofNat (ch.toNat - 'A'.toNat + 10))
  else .error "invalid hex in key"

/-- A text of the right size in bytes with an odd number of characters has one that is no digit. -/
def hexPairs : List Char → Except String Bytes
  | [] => .ok []
  | [_] => .error "invalid hex in key"
  | high :: low :: rest => do
    let high ← hexValue high
    let low ← hexValue low
    let bytes ← hexPairs rest
    return ((high <<< 4) ||| low) :: bytes

def hexDecodeExact (count : Nat) (text : List Char) : Except String Bytes :=
  if (text.map Char.utf8Size).sum ≠ count * 2 then .error "invalid key length" else hexPairs text

theorem hexDigit_byte (byte : UInt8) :
    hexValue (hexDigit (byte >>> 4)) = .ok (byte >>> 4) ∧ hexValue (hexDigit (byte &&& 15)) = .ok (byte &&& 15) ∧
      ((byte >>> 4) <<< 4) ||| (byte &&& 15) = byte ∧ hexDigit (byte >>> 4) ∈ hexDigits ∧
      hexDigit (byte &&& 15) ∈ hexDigits := by
  have all : ∀ number : Fin 256,
      hexValue (hexDigit (UInt8.ofNat number >>> 4)) = .ok (UInt8.ofNat number >>> 4) ∧
        hexValue (hexDigit (UInt8.ofNat number &&& 15)) = .ok (UInt8.ofNat number &&& 15) ∧
        ((UInt8.ofNat number >>> 4) <<< 4) ||| (UInt8.ofNat number &&& 15) = UInt8.ofNat number ∧
        hexDigit (UInt8.ofNat number >>> 4) ∈ hexDigits ∧ hexDigit (UInt8.ofNat number &&& 15) ∈ hexDigits := by
    decide +kernel
  have here := all ⟨byte.toNat, byte.toNat_lt⟩
  rw [UInt8.ofNat_toNat] at here
  exact here

theorem hexPairs_encode (bytes : Bytes) : hexPairs (hexEncode bytes) = .ok bytes := by
  induction bytes with
  | nil => rfl
  | cons byte bytes ih =>
    obtain ⟨high, low, whole, _⟩ := hexDigit_byte byte
    show hexPairs (hexDigit (byte >>> 4) :: hexDigit (byte &&& 15) :: hexEncode bytes) = _
    rw [hexPairs, high, low, ih]
    exact congrArg (fun read => Except.ok (read :: bytes)) whole

structure NodeKey where
  secret : Bytes
  sized : secret.length = 32
deriving DecidableEq

namespace NodeKey

def nodeId (key : NodeKey) : String := "node-" ++ String.ofList (hexEncode (key.secret.take 16))

def debug (key : NodeKey) : String :=
  "NodeKey \x7b node_id: NodeId(\"" ++ key.nodeId ++ "\"), secret: [REDACTED] \x7d"

def nodeKeyPrefix : List Char := "keryx-node-key-v1:".toList

def toPersistedString (key : NodeKey) : List Char := nodeKeyPrefix ++ hexEncode key.secret

def fromPersistedStr (input : List Char) : Except String NodeKey :=
  let trimmed := trimChars input
  let hex := if nodeKeyPrefix <+: trimmed then trimmed.drop nodeKeyPrefix.length else trimmed
  match hexDecodeExact 32 hex with
  | .error message => .error message
  | .ok bytes => if sized : bytes.length = 32 then .ok ⟨bytes, sized⟩ else .error "invalid key length"

def byte (key : NodeKey) (index : Fin 32) : UInt8 := key.secret.get (index.cast key.sized.symm)

end NodeKey

theorem hexEncode_digits (bytes : Bytes) : ∀ ch ∈ hexEncode bytes, ch ∈ hexDigits := by
  intro ch member
  obtain ⟨byte, _, digit⟩ := List.mem_flatMap.mp member
  obtain ⟨_, _, _, high, low⟩ := hexDigit_byte byte
  rcases List.mem_pair.mp digit with rfl | rfl
  · exact high
  · exact low

theorem hexEncode_length (bytes : Bytes) : (hexEncode bytes).length = bytes.length * 2 := by
  induction bytes with
  | nil => rfl
  | cons byte bytes ih =>
    show (hexEncode bytes).length + 2 = _
    rw [ih, List.length_cons, Nat.succ_mul]

variable {bytes : Bytes}

theorem hexDecodeExact_encode {count : Nat} (sized : bytes.length = count) :
    hexDecodeExact count (hexEncode bytes) = .ok bytes := by
  have single : hexDigits.all (·.utf8Size == 1) = true := by decide
  have sizes : (hexEncode bytes).map Char.utf8Size = List.replicate (count * 2) 1 := by
    rw [List.eq_replicate_iff, List.length_map]
    refine ⟨?_, ?_⟩
    · rw [hexEncode_length, sized]
    · intro size member
      obtain ⟨ch, digit, rfl⟩ := List.mem_map.mp member
      exact eq_of_beq (List.all_eq_true.mp single ch (hexEncode_digits bytes ch digit))
  unfold hexDecodeExact
  rw [sizes, List.sum_replicate_nat, Nat.mul_one, if_neg (not_not_intro rfl), hexPairs_encode]

theorem toLower_same {α : Type} (shown : Char → α)
    (same : ∀ letter : Fin 26, shown (.ofNat (letter + 97)) = shown (.ofNat (letter + 65))) (ch : Char) :
    shown ch.toLower = shown ch := by
  by_cases upper : 65 ≤ ch.toNat ∧ ch.toNat ≤ 90
  · have lowered : ∀ letter : Fin 26, (Char.ofNat (letter + 65)).toLower = .ofNat (letter + 97) := by decide
    have whole : Char.ofNat (ch.toNat - 65 + 65) = ch := by rw [Nat.sub_add_cancel upper.1, Char.ofNat_toNat]
    rw [← whole]
    exact (congrArg shown (lowered ⟨ch.toNat - 65, by omega⟩)).trans (same ⟨ch.toNat - 65, by omega⟩)
  · exact congrArg shown (dif_neg upper)

theorem hexValue_ok {ch : Char} {value : UInt8} (read : hexValue ch = .ok value) :
    ch.toLower = hexDigit value ∧ value.toNat < 16 := by
  have all : ∀ number : Fin 128, ∀ value ∈ (hexValue (.ofNat number)).toOption,
      (Char.ofNat number).toLower = hexDigit value ∧ value.toNat < 16 := by
    decide +kernel
  have small : ch.toNat < 128 := by
    by_contra large
    have lower : ∀ last : Char, last.toNat < 128 → ¬ ch ≤ last := fun last below above =>
      large (Nat.lt_of_le_of_lt above below)
    unfold hexValue at read
    rw [if_neg fun range => lower _ (by decide) range.2, if_neg fun range => lower _ (by decide) range.2,
      if_neg fun range => lower _ (by decide) range.2] at read
    cases read
  have here := all ⟨ch.toNat, small⟩
  rw [Char.ofNat_toNat, read] at here
  exact here value rfl

theorem hexDigit_pair {high low : UInt8} (highSmall : high.toNat < 16) (lowSmall : low.toNat < 16) :
    ((high <<< 4) ||| low) >>> 4 = high ∧ ((high <<< 4) ||| low) &&& 15 = low := by
  have all : ∀ high low : Fin 16,
      ((UInt8.ofNat high <<< 4) ||| .ofNat low) >>> 4 = .ofNat high ∧
        ((UInt8.ofNat high <<< 4) ||| .ofNat low) &&& 15 = .ofNat low := by
    decide
  have here := all ⟨high.toNat, highSmall⟩ ⟨low.toNat, lowSmall⟩
  rw [UInt8.ofNat_toNat, UInt8.ofNat_toNat] at here
  exact here

variable {text : List Char}

theorem hexPairs_ok (read : hexPairs text = .ok bytes) : text.map Char.toLower = hexEncode bytes := by
  induction text using hexPairs.induct generalizing bytes with
  | case1 => cases read; rfl
  | case2 ch => cases read
  | case3 high low rest ih =>
    unfold hexPairs at read
    obtain ⟨first, highRead, read⟩ := except_bind_ok.mp read
    obtain ⟨second, lowRead, read⟩ := except_bind_ok.mp read
    obtain ⟨others, restRead, read⟩ := except_bind_ok.mp read
    cases read
    obtain ⟨highDigit, highSmall⟩ := hexValue_ok highRead
    obtain ⟨lowDigit, lowSmall⟩ := hexValue_ok lowRead
    obtain ⟨highBack, lowBack⟩ := hexDigit_pair highSmall lowSmall
    show high.toLower :: low.toLower :: rest.map Char.toLower = hexDigit _ :: hexDigit _ :: hexEncode others
    rw [highDigit, lowDigit, highBack, lowBack, ih restRead]

theorem hexPairs_toLower (text : List Char) : hexPairs (text.map Char.toLower) = hexPairs text := by
  induction text using hexPairs.induct with
  | case1 => rfl
  | case2 ch => rfl
  | case3 high low rest ih =>
    simp only [List.map_cons, hexPairs, toLower_same hexValue (by decide), ih]

theorem hexDecodeExact_toLower (count : Nat) (text : List Char) :
    hexDecodeExact count (text.map Char.toLower) = hexDecodeExact count text := by
  have sizes : (text.map Char.toLower).map Char.utf8Size = text.map Char.utf8Size := by
    rw [List.map_map]
    exact List.map_congr_left fun ch _ => toLower_same Char.utf8Size (by decide) ch
  rw [hexDecodeExact, hexDecodeExact, sizes, hexPairs_toLower]

theorem hexDecodeExact_ok {count : Nat} (sized : bytes.length = count) :
    hexDecodeExact count text = .ok bytes ↔ text.map Char.toLower = hexEncode bytes := by
  constructor
  · intro read
    unfold hexDecodeExact at read
    split at read
    · cases read
    · exact hexPairs_ok read
  · intro same
    rw [← hexDecodeExact_toLower, same, hexDecodeExact_encode sized]

theorem trimChars_around {before body after : List Char} (blankBefore : before.all isWhitespace = true)
    (blankAfter : after.all isWhitespace = true) (allowed : body.all isAllowedIdChar = true) (nonempty : body ≠ []) :
    trimChars (before ++ body ++ after) = body := by
  have trimmed := trimChars_of_allowed allowed
  obtain ⟨first, rest, rfl⟩ := List.exists_cons_of_ne_nil nonempty
  have start : ¬ isWhitespace first = true := by
    rw [isAllowedIdChar_not_whitespace (List.all_eq_true.mp allowed first List.mem_cons_self)]
    exact Bool.false_ne_true
  unfold trimChars at trimmed ⊢
  rw [List.dropWhile_cons_of_neg start] at trimmed
  rw [List.append_assoc, List.dropWhile_append_of_pos (List.all_eq_true.mp blankBefore), List.cons_append,
    List.dropWhile_cons_of_neg start, ← List.cons_append, List.reverse_append,
    List.dropWhile_append_of_pos fun ch member => List.all_eq_true.mp blankAfter ch (List.mem_reverse.mp member)]
  exact trimmed

theorem trimChars_cut (text : List Char) :
    ∃ before after, before.all isWhitespace = true ∧ after.all isWhitespace = true ∧
      text = before ++ trimChars text ++ after := by
  refine ⟨text.takeWhile isWhitespace, (text.dropWhile isWhitespace).rtakeWhile isWhitespace,
    List.all_takeWhile, ?_, ?_⟩
  · unfold List.rtakeWhile
    rw [List.all_reverse]
    exact List.all_takeWhile
  · rw [List.append_assoc]
    show text = _ ++ ((text.dropWhile isWhitespace).rdropWhile isWhitespace ++ _)
    rw [List.rdropWhile_append_rtakeWhile, List.takeWhile_append_dropWhile]

/-- The key in digits of either case, with or without the prefix, and blanks around it. -/
def NodeKey.Writes (key : NodeKey) (text : List Char) : Prop :=
  ∃ before after label hex, before.all isWhitespace = true ∧ after.all isWhitespace = true ∧
    (label = [] ∨ label = NodeKey.nodeKeyPrefix) ∧ hex.map Char.toLower = hexEncode key.secret ∧
    text = before ++ (label ++ hex) ++ after

theorem hexDigits_allowed (same : text.map Char.toLower = hexEncode bytes) : text.all isAllowedIdChar = true := by
  have digits : hexDigits.all isAllowedIdChar = true := by decide
  rw [List.all_eq_true]
  intro ch member
  rw [← toLower_same isAllowedIdChar (by decide)]
  refine List.all_eq_true.mp digits _ (hexEncode_digits bytes _ ?_)
  rw [← same]
  exact List.mem_map_of_mem member

theorem NodeKey.fromPersistedStr_ok {key : NodeKey} : fromPersistedStr text = .ok key ↔ key.Writes text := by
  unfold fromPersistedStr
  simp only
  constructor
  · intro read
    obtain ⟨before, after, blankBefore, blankAfter, whole⟩ := trimChars_cut text
    split at read
    · cases read
    · rename_i bytes decoded
      split at read
      · rename_i sized
        cases read
        have same := (hexDecodeExact_ok sized).mp decoded
        split at same
        · rename_i labelled
          have joined := List.prefix_iff_eq_append.mp labelled
          exact ⟨before, after, nodeKeyPrefix, _, blankBefore, blankAfter, .inr rfl, same, by rw [joined]; exact whole⟩
        · exact ⟨before, after, [], _, blankBefore, blankAfter, .inl rfl, same, whole⟩
      · cases read
  · rintro ⟨before, after, label, hex, blankBefore, blankAfter, labelled, same, rfl⟩
    have allowed : (label ++ hex).all isAllowedIdChar = true := by
      rw [List.all_append, hexDigits_allowed same, Bool.and_true]
      rcases labelled with rfl | rfl
      · rfl
      · decide
    have filled : hex ≠ [] := by
      rintro rfl
      have empty := congrArg List.length same
      rw [hexEncode_length, key.sized] at empty
      cases empty
    have cut : (if nodeKeyPrefix <+: label ++ hex then (label ++ hex).drop nodeKeyPrefix.length else label ++ hex) =
        hex := by
      rcases labelled with rfl | rfl
      · refine if_neg fun starts => ?_
        have first : 'k' ∈ hex := starts.subset (by decide)
        have digit := hexEncode_digits key.secret 'k' (same ▸ List.mem_map_of_mem first)
        exact absurd digit (by decide)
      · rw [if_pos (List.prefix_append _ _), List.drop_left]
    rw [trimChars_around blankBefore blankAfter allowed (List.append_ne_nil_of_right_ne_nil _ filled), cut,
      (hexDecodeExact_ok key.sized).mpr same]
    exact dif_pos key.sized

theorem NodeKey.toPersistedString_writes (key : NodeKey) {after : List Char} (blank : after.all isWhitespace = true) :
    key.Writes (key.toPersistedString ++ after) :=
  ⟨[], after, nodeKeyPrefix, hexEncode key.secret, rfl, blank, .inr rfl, hexPairs_ok (hexPairs_encode key.secret), rfl⟩

theorem NodeKey.fromPersistedStr_line (key : NodeKey) : fromPersistedStr (key.toPersistedString ++ ['\n']) = .ok key :=
  fromPersistedStr_ok.mpr (key.toPersistedString_writes (by decide))

/-- A key is read back from its stored form, and a text is read as a key exactly if it writes that key. -/
theorem node_keys_survive_storage (key : NodeKey) (text : List Char) :
    NodeKey.fromPersistedStr key.toPersistedString = .ok key ∧
      (NodeKey.fromPersistedStr text = .ok key ↔ key.Writes text) := by
  have stored : NodeKey.fromPersistedStr (key.toPersistedString ++ []) = .ok key :=
    NodeKey.fromPersistedStr_ok.mpr (key.toPersistedString_writes rfl)
  rw [List.append_nil] at stored
  exact ⟨stored, NodeKey.fromPersistedStr_ok⟩

/-- The byte of the key can be told from what is shown of the key. -/
def Discloses (shown : NodeKey → String) (index : Fin 32) : Prop :=
  ∃ extract : String → UInt8, ∀ key, extract (shown key) = key.byte index

section
variable {key other : NodeKey} {index : Fin 32}

theorem nodeId_eq_iff : key.nodeId = other.nodeId ↔ key.secret.take 16 = other.secret.take 16 := by
  constructor
  · intro same
    have digits := String.ofList_injective ((String.append_right_inj "node-").mp same)
    have bytes := congrArg hexPairs digits
    rw [hexPairs_encode, hexPairs_encode] at bytes
    exact Except.ok.inj bytes
  · intro same
    rw [NodeKey.nodeId, NodeKey.nodeId, same]

theorem around_eq_iff (before after first second : String) :
    before ++ first ++ after = before ++ second ++ after ↔ first = second := by
  rw [String.append_left_inj, String.append_right_inj]

theorem debug_eq_iff : key.debug = other.debug ↔ key.nodeId = other.nodeId := by
  unfold NodeKey.debug
  exact around_eq_iff _ _ _ _

theorem byte_eq (key : NodeKey) (index : Fin 32) : key.secret[index.val]? = some (key.byte index) :=
  List.getElem?_eq_getElem _

theorem byte_of_take (same : key.secret.take 16 = other.secret.take 16) (first : index.val < 16) :
    key.byte index = other.byte index := by
  have here := congrArg (·[index.val]?) same
  simp only [List.getElem?_take_of_lt first, byte_eq] at here
  exact Option.some.inj here

def zeroKey : NodeKey := ⟨List.replicate 32 0, List.length_replicate⟩

def keyWith (index : Fin 32) : NodeKey :=
  ⟨(List.replicate 32 0).set index.val 1, by rw [List.length_set, List.length_replicate]⟩

theorem keyWith_differs (later : 16 ≤ index.val) :
    zeroKey.secret.take 16 = (keyWith index).secret.take 16 ∧ zeroKey.byte index ≠ (keyWith index).byte index := by
  constructor
  · show (List.replicate 32 0).take 16 = ((List.replicate 32 0).set index.val 1).take 16
    rw [List.take_set, List.set_eq_of_length_le]
    rw [List.length_take, List.length_replicate]
    exact later
  · intro same
    have zero : zeroKey.secret[index.val]? = some 0 := List.getElem?_replicate_of_lt index.isLt
    have one : (keyWith index).secret[index.val]? = some 1 :=
      List.getElem?_set_self (by rw [List.length_replicate]; exact index.isLt)
    rw [byte_eq] at zero one
    rw [Option.some.inj zero, Option.some.inj one] at same
    exact absurd same (by decide)

theorem discloses_iff {shown : NodeKey → String}
    (half : ∀ key other, shown key = shown other ↔ key.secret.take 16 = other.secret.take 16) :
    Discloses shown index ↔ index.val < 16 := by
  constructor
  · rintro ⟨extract, reads⟩
    by_contra later
    obtain ⟨same, differ⟩ := keyWith_differs (Nat.not_lt.mp later)
    apply differ
    rw [← reads, ← reads, (half zeroKey (keyWith index)).mpr same]
  · intro first
    classical
    refine ⟨fun text => if known : ∃ key, shown key = text then known.choose.byte index else 0, ?_⟩
    intro key
    have known : ∃ other, shown other = shown key := ⟨key, rfl⟩
    refine (dif_pos known).trans ?_
    exact byte_of_take ((half _ _).mp known.choose_spec) first

end

/-- Neither the id nor the debug form of a key lets a byte of it be told exactly if the byte is in its second half. -/
theorem shown_keys_hide_second_half (index : Fin 32) :
    (¬ Discloses NodeKey.nodeId index ∧ ¬ Discloses NodeKey.debug index) ↔ 16 ≤ index.val := by
  rw [discloses_iff fun _ _ => nodeId_eq_iff, discloses_iff fun _ _ => debug_eq_iff.trans nodeId_eq_iff, and_self]
  exact Nat.not_lt

theorem node_id_discloses_first_byte : Discloses NodeKey.nodeId 0 :=
  (discloses_iff fun _ _ => nodeId_eq_iff).mpr (by decide)

end Keryx.Policy
