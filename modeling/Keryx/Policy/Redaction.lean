import Mathlib.Data.List.Infix
import Keryx.Core.Identifier

/-! The redaction of the policy crate. A slice that does not start at a character panics. -/

namespace Keryx.Policy
open Keryx.Core

def isPunctuation (ch : Char) : Bool := ch = ',' || ch = ';'

def trimMatches (token : List Char) : List Char :=
  ((token.dropWhile isPunctuation).reverse.dropWhile isPunctuation).reverse

def byteLen (text : List Char) : Nat := (text.map Char.utf8Size).sum

/-- The text from the byte at the index. -/
def sliceFrom : List Char → Nat → Option (List Char)
  | [], index => if index = 0 then some [] else none
  | ch :: text, index =>
    if index = 0 then some (ch :: text)
    else if ch.utf8Size ≤ index then sliceFrom text (index - ch.utf8Size)
    else none

def splitOnce (separator : Char) (text : List Char) : Option (List Char × Char) :=
  if separator ∈ text then some (text.takeWhile (· ≠ separator), separator) else none

def secretNeedles : List String :=
  ["secret", "token", "password", "passwd", "api_key", "apikey", "authorization", "bearer", "private_key", "node_key",
    "node_token", "credential"]

def isSecretKey (key : List Char) : Bool :=
  secretNeedles.any fun needle => needle.toList <:+: key.map Char.toLower

def looksLikeBearerToken (value : List Char) : Bool :=
  value.map Char.toLower = "bearer".toList || "Bearer.".toList <+: value || "Bearer_".toList <+: value

def redactToken (token : List Char) : Option (List Char) := do
  let trimmed := trimMatches token
  let suffix ← sliceFrom token (byteLen trimmed)
  return match splitOnce '=' trimmed <|> splitOnce ':' trimmed with
  | none => if looksLikeBearerToken trimmed then "[REDACTED]".toList else token
  | some (key, separator) => if isSecretKey key then key ++ separator :: "[REDACTED]".toList ++ suffix else token

def redactSecrets (input : String) : Option String := do
  let words ← ((input.toList.splitOnP isWhitespace).filter (· ≠ [])).mapM redactToken
  return " ".intercalate (words.map String.ofList)

section
variable {text : List Char} {index : Nat}

theorem byteLen_cons (ch : Char) (text : List Char) : byteLen (ch :: text) = ch.utf8Size + byteLen text := rfl

theorem byteLen_append (first second : List Char) : byteLen (first ++ second) = byteLen first + byteLen second := by
  unfold byteLen
  rw [List.map_append, List.sum_append]

theorem sliceFrom_isSome : (sliceFrom text index).isSome = true ↔ ∃ count, byteLen (text.take count) = index := by
  induction text generalizing index with
  | nil =>
    unfold sliceFrom
    simp only [List.take_nil, exists_const]
    split
    · rename_i start
      exact iff_of_true rfl start.symm
    · rename_i beyond
      exact iff_of_false nofun fun same => beyond same.symm
  | cons ch text ih =>
    have positive := ch.utf8Size_pos
    unfold sliceFrom
    split
    · rename_i start
      exact iff_of_true rfl ⟨0, start.symm⟩
    rename_i later
    have first : (∃ count, byteLen ((ch :: text).take count) = index) ↔
        ∃ count, ch.utf8Size + byteLen (text.take count) = index := by
      constructor
      · rintro ⟨count, same⟩
        cases count with
        | zero => exact absurd same.symm later
        | succ count => exact ⟨count, same⟩
      · exact fun ⟨count, same⟩ => ⟨count + 1, same⟩
    rw [first]
    split
    · rename_i within
      rw [ih]
      exact exists_congr fun count => by omega
    · rename_i inside
      exact iff_of_false nofun fun ⟨count, same⟩ => inside (by omega)

theorem sliceFrom_append (first second : List Char) : sliceFrom (first ++ second) (byteLen first) = some second := by
  induction first with
  | nil => cases second <;> rfl
  | cons ch first ih =>
    have positive := ch.utf8Size_pos
    rw [List.cons_append, sliceFrom, byteLen_cons, if_neg (by omega), if_pos (by omega), Nat.add_sub_cancel_left, ih]

end

theorem redactToken_isSome (token : List Char) :
    (redactToken token).isSome = true ↔ ∃ count, byteLen (token.take count) = byteLen (trimMatches token) := by
  rw [← sliceFrom_isSome]
  unfold redactToken
  simp only
  cases sliceFrom token (byteLen (trimMatches token)) with
  | none => exact iff_of_false nofun nofun
  | some suffix => exact iff_of_true rfl rfl

theorem mapM_isSome {α β : Type} (read : α → Option β) (items : List α) :
    (items.mapM read).isSome = true ↔ ∀ item ∈ items, (read item).isSome = true := by
  induction items with
  | nil => exact iff_of_true rfl nofun
  | cons item items ih =>
    rw [List.mapM_cons, List.forall_mem_cons, ← ih]
    cases read item with
    | none => exact iff_of_false nofun fun both => nomatch both.1
    | some value =>
      cases items.mapM read with
      | none => exact iff_of_false nofun fun both => nomatch both.2
      | some values => exact iff_of_true rfl ⟨rfl, rfl⟩

/-- A key, a separator and a value between runs of punctuation. -/
structure SecretWord where
  lead : List Char
  first : Char
  rest : List Char
  separator : Char
  tail : List Char
  leads : ∀ ch ∈ lead, isPunctuation ch = true
  starts : isPunctuation first = false
  tails : ∀ ch ∈ tail, isPunctuation ch = true
  secret : isSecretKey (first :: rest) = true
  plain : '=' ∉ first :: rest ∧ ':' ∉ first :: rest
  separates : separator = '=' ∨ separator = ':'

def SecretWord.key (word : SecretWord) : List Char := word.first :: word.rest

def SecretWord.token (word : SecretWord) (value : List Char) : List Char :=
  word.lead ++ (word.key ++ word.separator :: value) ++ word.tail

/-- A value that neither starts nor ends with punctuation, and is all in one word. -/
structure Value (value : List Char) : Prop where
  solid : ∀ ch ∈ value, isWhitespace ch = false
  starts : ∃ first rest, value = first :: rest ∧ isPunctuation first = false
  ends : ∃ start last, value = start ++ [last] ∧ isPunctuation last = false

section
variable {lead core tail key value : List Char}

theorem dropWhile_punctuation {first : Char} {rest : List Char} (leads : ∀ ch ∈ lead, isPunctuation ch = true)
    (stops : isPunctuation first = false) : (lead ++ first :: rest).dropWhile isPunctuation = first :: rest := by
  rw [List.dropWhile_append_of_pos leads, List.dropWhile_cons_of_neg]
  rw [stops]
  exact Bool.false_ne_true

theorem SecretWord.trims (word : SecretWord) (given : Value value) :
    trimMatches (word.token value) = word.key ++ word.separator :: value := by
  obtain ⟨start, last, rfl, stops⟩ := given.ends
  unfold trimMatches token
  have front : (word.lead ++ (word.key ++ word.separator :: (start ++ [last])) ++ word.tail).dropWhile isPunctuation =
      word.key ++ word.separator :: start ++ last :: word.tail := by
    rw [List.append_assoc, key, List.cons_append, List.cons_append, dropWhile_punctuation word.leads word.starts]
    simp only [List.cons_append, List.append_assoc, List.nil_append]
  rw [front, List.reverse_append, List.reverse_cons, List.append_assoc, List.singleton_append]
  rw [dropWhile_punctuation (fun ch member => word.tails ch (List.mem_reverse.mp member)) stops]
  rw [List.reverse_cons, List.reverse_reverse, List.append_assoc, List.cons_append]

theorem redactToken_framed (before : List Char) {token suffix : List Char} {separator : Char}
    (trimmed : trimMatches token = core) (split : (splitOnce '=' core <|> splitOnce ':' core) = some (key, separator))
    (secret : isSecretKey key = true) (whole : token = before ++ suffix) (counted : byteLen before = byteLen core) :
    redactToken token = some (key ++ separator :: "[REDACTED]".toList ++ suffix) := by
  unfold redactToken
  simp only
  rw [trimmed, split, whole, ← counted, sliceFrom_append]
  exact congrArg some (if_pos secret)

theorem isSecretKey_mono {whole : List Char} (part : key <:+: whole) (secret : isSecretKey key = true) :
    isSecretKey whole = true := by
  obtain ⟨needle, listed, within⟩ := List.any_eq_true.mp secret
  exact List.any_eq_true.mpr ⟨needle, listed, decide_eq_true ((of_decide_eq_true within).trans (part.map _))⟩

theorem splitOnce_first {separator : Char} (absent : separator ∉ key) :
    splitOnce separator (key ++ separator :: value) = some (key, separator) := by
  unfold splitOnce
  rw [if_pos (List.mem_append_right key List.mem_cons_self),
    List.takeWhile_append_of_pos fun ch member => decide_eq_true (ne_of_mem_of_not_mem member absent)]
  simp

theorem split_key {separator : Char} (plain : '=' ∉ key ∧ ':' ∉ key) (separates : separator = '=' ∨ separator = ':')
    (first : separator = ':' → '=' ∉ value) :
    (splitOnce '=' (key ++ separator :: value) <|> splitOnce ':' (key ++ separator :: value)) =
      some (key, separator) := by
  rcases separates with rfl | rfl
  · rw [splitOnce_first plain.1]
    rfl
  · have none : splitOnce '=' (key ++ ':' :: value) = none := by
      refine if_neg fun member => ?_
      rcases List.mem_append.mp member with own | later
      · exact plain.1 own
      · exact (List.mem_cons.mp later).elim (by decide) (first rfl)
    rw [none, splitOnce_first plain.2]
    rfl

theorem byteLen_punctuation (leads : ∀ ch ∈ lead, isPunctuation ch = true) : byteLen lead = lead.length := by
  induction lead with
  | nil => rfl
  | cons ch lead ih =>
    obtain ⟨own, others⟩ := List.forall_mem_cons.mp leads
    rw [isPunctuation, Bool.or_eq_true, decide_eq_true_eq, decide_eq_true_eq] at own
    rw [byteLen_cons, ih others, List.length_cons, Nat.add_comm]
    rcases own with rfl | rfl <;> rfl

theorem byteLen_replicate (count : Nat) (ch : Char) : byteLen (List.replicate count ch) = count * ch.utf8Size := by
  unfold byteLen
  rw [List.map_replicate, List.sum_replicate_nat]

variable (word : SecretWord)

theorem SecretWord.hides_value (given : Value value) (bare : word.lead = []) (equals : word.separator = '=') :
    redactToken (word.token value) = some (word.key ++ '=' :: "[REDACTED]".toList ++ word.tail) := by
  have trimmed := word.trims given
  rw [equals] at trimmed
  refine redactToken_framed _ trimmed (split_key word.plain (.inl rfl) nofun) word.secret ?_ rfl
  rw [token, bare, equals, List.nil_append]

theorem SecretWord.shows_end {ch : Char} (small : ch.utf8Size = 1) (other : ch ≠ '=')
    (given : Value (List.replicate word.lead.length ch)) :
    redactToken (word.token (List.replicate word.lead.length ch)) =
      some (word.key ++ word.separator :: "[REDACTED]".toList ++
        (List.replicate word.lead.length ch ++ word.tail)) := by
  refine redactToken_framed (word.lead ++ (word.key ++ [word.separator])) (word.trims given)
    (split_key word.plain word.separates ?_) word.secret ?_ ?_
  · intro _ member
    exact other (List.eq_of_mem_replicate member).symm
  · simp only [token, List.append_assoc, List.cons_append, List.nil_append]
  · rw [byteLen_append, byteLen_append, byteLen_append, byteLen_cons, byteLen_cons, byteLen_punctuation word.leads,
      byteLen_replicate, small]
    simp only [byteLen, List.map_nil, List.sum_nil]
    omega

theorem SecretWord.shows_start (bare : word.lead = []) (colon : word.separator = ':') {ch : Char} (other : ch ≠ '=')
    (given : Value [ch, '=']) :
    redactToken (word.token [ch, '=']) =
      some (word.key ++ [':', ch] ++ '=' :: "[REDACTED]".toList ++ word.tail) := by
  have core : word.key ++ ':' :: [ch, '='] = (word.key ++ [':', ch]) ++ '=' :: [] :=
    (List.append_assoc word.key [':', ch] ['=']).symm
  have absent : '=' ∉ word.key ++ [':', ch] := by
    rw [List.mem_append, List.mem_pair, not_or, not_or]
    exact ⟨word.plain.1, by decide, other.symm⟩
  have kept := isSecretKey_mono (List.prefix_append word.key [':', ch]).isInfix word.secret
  have trimmed := word.trims given
  rw [colon, core] at trimmed
  refine redactToken_framed _ trimmed ?_ kept ?_ rfl
  · rw [splitOnce_first absent]
    rfl
  · rw [token, bare, colon, core, List.nil_append]

end

/-- The output for the word is the same whatever its value. -/
def SecretWord.Hides (word : SecretWord) : Prop :=
  ∀ value other, Value value → Value other → redactToken (word.token value) = redactToken (word.token other)

theorem value_pair {first last : Char} (solid : isWhitespace first = false ∧ isWhitespace last = false)
    (plain : isPunctuation first = false ∧ isPunctuation last = false) : Value [first, last] := by
  refine ⟨?_, ⟨first, [last], rfl, plain.1⟩, ⟨[first], last, rfl, plain.2⟩⟩
  intro ch member
  rcases List.mem_pair.mp member with rfl | rfl
  · exact solid.1
  · exact solid.2

theorem value_replicate {count : Nat} (positive : 0 < count) {ch : Char} (solid : isWhitespace ch = false)
    (plain : isPunctuation ch = false) : Value (List.replicate count ch) := by
  obtain ⟨less, rfl⟩ := Nat.exists_eq_succ_of_ne_zero (Nat.ne_of_gt positive)
  refine ⟨?_, ⟨ch, List.replicate less ch, rfl, plain⟩, ⟨List.replicate less ch, ch, ?_, plain⟩⟩
  · intro other member
    rw [List.eq_of_mem_replicate member]
    exact solid
  · exact List.replicate_succ'

theorem SecretWord.hides_iff (word : SecretWord) : word.Hides ↔ word.lead = [] ∧ word.separator = '=' := by
  constructor
  · intro hides
    have empty : word.lead = [] := by
      by_contra present
      have positive := List.length_pos_iff.mpr present
      have first := @value_replicate _ positive 'a' (by decide) (by decide)
      have second := @value_replicate _ positive 'b' (by decide) (by decide)
      have same := hides _ _ first second
      rw [word.shows_end (by decide) (by decide) first, word.shows_end (by decide) (by decide) second] at same
      have equal := List.append_cancel_right (List.append_cancel_left (Option.some.inj same))
      rcases (List.replicate_inj.mp equal).2 with zero | letters
      · omega
      · exact absurd letters (by decide)
    refine ⟨empty, word.separates.resolve_right ?_⟩
    intro colon
    have first : Value ['a', '='] := value_pair (by decide) (by decide)
    have second : Value ['b', '='] := value_pair (by decide) (by decide)
    have same := hides _ _ first second
    rw [word.shows_start empty colon (by decide) first, word.shows_start empty colon (by decide) second] at same
    have equal := List.append_cancel_right (List.append_cancel_right (Option.some.inj same))
    exact absurd (List.append_cancel_left equal) (by decide)
  · rintro ⟨bare, equals⟩ value other given givenToo
    rw [word.hides_value given bare equals, word.hides_value givenToo bare equals]

/-- The text is redacted unless a word has no character boundary as far from its start as its core is long, and a word
hides its value exactly if it starts with the key and the separator is an equals sign. -/
theorem policy_redaction_is_safe (input : String) (word : SecretWord) :
    ((redactSecrets input).isSome = true ↔
      ∀ token ∈ (input.toList.splitOnP isWhitespace).filter (· ≠ []),
        ∃ count, byteLen (token.take count) = byteLen (trimMatches token)) ∧
      (word.Hides ↔ word.lead = [] ∧ word.separator = '=') := by
  refine ⟨?_, word.hides_iff⟩
  unfold redactSecrets
  rw [← forall₂_congr fun token _ => redactToken_isSome token, ← mapM_isSome]
  cases List.mapM redactToken _ with
  | none => exact Iff.rfl
  | some tokens => exact iff_of_true rfl rfl

def tokenWord : SecretWord where
  lead := []
  first := 't'
  rest := "oken".toList
  separator := '='
  tail := [';']
  leads := List.forall_mem_nil _
  starts := rfl
  tails := List.forall_mem_singleton.mpr rfl
  secret := by decide
  plain := by decide
  separates := .inl rfl

def listedWord : SecretWord := { tokenWord with lead := [','], leads := List.forall_mem_singleton.mpr rfl }

theorem token_hidden_unless_listed :
    (redactSecrets ",token=abc;").isSome = true ∧ tokenWord.Hides ∧ ¬ listedWord.Hides := by
  have listed := policy_redaction_is_safe ",token=abc;" listedWord
  refine ⟨listed.1.mpr (List.forall_mem_singleton.mpr ⟨9, rfl⟩), ?_, ?_⟩
  · exact (policy_redaction_is_safe "" tokenWord).2.mpr ⟨rfl, rfl⟩
  · intro hides
    exact absurd (listed.2.mp hides).1 (by decide)

/-- A comma before a letter of two bytes panics. -/
theorem policy_redaction_panics_and_leaks :
    redactSecrets ",é" = none ∧ redactSecrets ",token=abc" = some "token=[REDACTED]c" ∧
      redactSecrets "token:abc=" = some "token:abc=[REDACTED]" := by
  decide

end Keryx.Policy
