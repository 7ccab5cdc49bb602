import AddressSync.Json.Parser
import AddressSync.Json.Printer
import AddressSync.Proofs.Address.Digits

/-! What is printed is read again. Of a plain value, whose strings have content and whose numbers have
neither point nor exponent, the text gives the tokens of the value one by one, and these the value. -/

namespace AddressSync.Json

mutual

def Value.isPlain : Value → Bool
  | .null | .bool _ => true
  | .number n => n = ⟨n.negative, n.digits, 0, 0, true⟩
  | .string s => s.isSome
  | .array items => plainItems items
  | .object entries => plainEntries entries

def plainItems : List Value → Bool
  | [] => true
  | v :: rest => v.isPlain && plainItems rest

def plainEntries : List (Content × Value) → Bool
  | [] => true
  | (key, v) :: rest => key.isSome && v.isPlain && plainEntries rest

end

mutual

def Value.tokens : Value → List Token
  | .array [] => [.openArray, .closeArray]
  | .array (v :: rest) => .openArray :: (v.tokens ++ itemTokens rest ++ [.closeArray])
  | .object [] => [.openObject, .closeObject]
  | .object ((key, v) :: rest) =>
    .openObject :: .value (.string key) :: .colon :: (v.tokens ++ entryTokens rest ++ [.closeObject])
  | v => [.value v]

def itemTokens : List Value → List Token
  | [] => []
  | v :: rest => .comma :: (v.tokens ++ itemTokens rest)

def entryTokens : List (Content × Value) → List Token
  | [] => []
  | (key, v) :: rest => .comma :: .value (.string key) :: .colon :: (v.tokens ++ entryTokens rest)

end

section Reading

variable {frames : List Frame} {rest : List Token}

theorem run_firstItem (v : Value) : Machine.run (.firstItem, frames) (v.tokens ++ rest) =
    Machine.run (.value, frames) (v.tokens ++ rest) := by
  rcases v with _ | b | n | s | ⟨_ | ⟨v, items⟩⟩ | ⟨_ | ⟨⟨key, v⟩, entries⟩⟩ <;>
    simp [Value.tokens, Machine.run, Machine.step]

mutual

theorem run_tokens (v : Value) (frames : List Frame) (rest : List Token) :
    Machine.run (.value, frames) (v.tokens ++ rest) = Machine.run (.more v, frames) rest := by
  match v with
  | .null | .bool _ | .number _ | .string _ | .array [] | .object [] => rfl
  | .array (v :: items) =>
    have first : Machine.run (.value, frames) ((Value.array (v :: items)).tokens ++ rest) =
        Machine.run (.firstItem, .array [] :: frames)
          (v.tokens ++ (itemTokens items ++ .closeArray :: rest)) := by
      simp [Value.tokens, Machine.run, Machine.step, Machine.beginValue]
    rw [first, run_firstItem, run_tokens v, run_itemTokens items]
    rfl
  | .object ((key, v) :: entries) =>
    have first : Machine.run (.value, frames) ((Value.object ((key, v) :: entries)).tokens ++ rest) =
        Machine.run (.value, .field [] key :: frames)
          (v.tokens ++ (entryTokens entries ++ .closeObject :: rest)) := by
      simp [Value.tokens, Machine.run, Machine.step, Machine.beginValue]
    rw [first, run_tokens v, run_entryTokens entries]
    rfl

theorem run_itemTokens (items : List Value) (v : Value) (before : List Value) (frames : List Frame)
    (rest : List Token) :
    Machine.run (.more v, .array before :: frames) (itemTokens items ++ .closeArray :: rest) =
      Machine.run (.more (.array (before.reverse ++ v :: items)), frames) rest := by
  match items with
  | [] => simp [itemTokens, Machine.run, Machine.step]
  | w :: items =>
    have next : Machine.run (.more v, .array before :: frames)
          (itemTokens (w :: items) ++ .closeArray :: rest) =
        Machine.run (.value, .array (v :: before) :: frames)
          (w.tokens ++ (itemTokens items ++ .closeArray :: rest)) := by
      simp [itemTokens, Machine.run, Machine.step]
    rw [next, run_tokens w, run_itemTokens items]
    simp

theorem run_entryTokens (entries : List (Content × Value)) (key : Content) (v : Value)
    (before : List (Content × Value)) (frames : List Frame) (rest : List Token) :
    Machine.run (.more v, .field before key :: frames)
        (entryTokens entries ++ .closeObject :: rest) =
      Machine.run (.more (.object (before.reverse ++ (key, v) :: entries)), frames) rest := by
  match entries with
  | [] => simp [entryTokens, Machine.run, Machine.step]
  | (key', w) :: entries =>
    have next : Machine.run (.more v, .field before key :: frames)
          (entryTokens ((key', w) :: entries) ++ .closeObject :: rest) =
        Machine.run (.value, .field ((key, v) :: before) key' :: frames)
          (w.tokens ++ (entryTokens entries ++ .closeObject :: rest)) := by
      simp [entryTokens, Machine.run, Machine.step]
    rw [next, run_tokens w, run_entryTokens entries]
    simp

end

end Reading

section Lexing

variable {found : List Token} {rest text text' : List Char} {tokens tokens' : List Token}

/-- What may stand behind a value: the end, or a character that no number goes on with. -/
def Follows (rest : List Char) : Prop :=
  rest = [] ∨ ∃ c ∈ [',', ':', ']', '\x7d'], ∃ rest', rest = c :: rest'

theorem follows_cons {c : Char} (mem : c ∈ [',', ':', ']', '\x7d']) (rest : List Char) :
    Follows (c :: rest) :=
  .inr ⟨c, mem, rest, rfl⟩

/-- The text gives these tokens, whatever was found before and may stand behind it. -/
def Lexes (text : List Char) (tokens : List Token) : Prop :=
  ∀ found rest, Follows rest →
    tokensAfter found .between (text ++ rest) = tokensAfter (tokens.reverse ++ found) .between rest

theorem lexes_nil : Lexes [] [] := fun _ _ _ => rfl

theorem Lexes.append (first : Lexes text tokens) (second : Lexes text' tokens')
    (apart : ∀ rest, Follows rest → Follows (text' ++ rest)) :
    Lexes (text ++ text') (tokens ++ tokens') := by
  intro found rest follows
  rw [List.append_assoc, first found _ (apart rest follows), second _ rest follows,
    List.reverse_append, List.append_assoc]

theorem Lexes.cons {c : Char} {token : Token} (alone : Lexer.start c = some (.between, [token]))
    (behind : Lexes text tokens) : Lexes (c :: text) (token :: tokens) := by
  intro found rest follows
  rw [List.cons_append, tokensAfter, Lexer.step, alone]
  refine (behind (token :: found) rest follows).trans ?_
  rw [List.reverse_cons, List.append_assoc]
  rfl

theorem Lexes.concat {c : Char} {token : Token} (lexes : Lexes text tokens)
    (closes : c ∈ [',', ':', ']', '\x7d']) (alone : Lexer.start c = some (.between, [token])) :
    Lexes (text ++ [c]) (tokens ++ [token]) :=
  lexes.append (lexes_nil.cons alone) fun _ _ => follows_cons closes _

section Numerals

theorem start_digitChar : ∀ d < 10, Lexer.start d.digitChar =
    some (.numeral { stage := if d = 0 then .zero else .whole, digits := d }, []) := by
  intro d small
  interval_cases d <;> rfl

theorem decimalDigit?_digitChar : ∀ d < 10, decimalDigit? d.digitChar = some d := by decide

theorem tokensAfter_digits {digits : List Nat} (bounded : ∀ d ∈ digits, d < 10) {n : Numeral}
    (whole : n.stage = .whole) (found : List Token) (rest : List Char) :
    tokensAfter found (.numeral n) (digits.map Nat.digitChar ++ rest) =
      tokensAfter found
        (.numeral { n with digits := digits.foldl (fun n d => 10 * n + d) n.digits }) rest := by
  induction digits generalizing n with
  | nil => rfl
  | cons d digits ih =>
    obtain ⟨small, bounded⟩ := List.forall_mem_cons.mp bounded
    have pushed : n.push? d.digitChar = some { n with digits := 10 * n.digits + d } := by
      simp [Numeral.push?, whole, decimalDigit?_digitChar d small]
    rw [List.map_cons, List.cons_append, tokensAfter, Lexer.step, pushed]
    exact ih bounded whole

theorem tokensAfter_numeral {n : Numeral} (plain : n.stage = .zero ∨ n.stage = .whole)
    (found : List Token) (follows : Follows rest) : tokensAfter found (.numeral n) rest =
      tokensAfter (.value (.number n.number) :: found) .between rest := by
  have complete : n.stage.complete = true := by
    rcases plain with stage | stage <;> rw [stage] <;> rfl
  rcases follows with rfl | ⟨c, mem, rest, rfl⟩
  · simp [tokensAfter, Lexer.finish, complete]
  · have other : n.push? c = none := by
      rcases plain with stage | stage <;> rw [Numeral.push?, stage] <;> fin_cases mem <;> rfl
    have alone : ∃ token, Lexer.start c = some (.between, [token]) := by
      fin_cases mem <;> exact ⟨_, rfl⟩
    obtain ⟨token, alone⟩ := alone
    simp [tokensAfter, Lexer.step, other, complete, alone]

theorem tokensAfter_toDigits (lexer : Lexer) {negative : Bool}
    (first : ∀ d < 10, lexer.step d.digitChar =
      some (.numeral { stage := if d = 0 then .zero else .whole, negative, digits := d }, []))
    (digits : Nat) (found : List Token) (follows : Follows rest) :
    tokensAfter found lexer (Nat.toDigits 10 digits ++ rest) =
      tokensAfter (.value (.number ⟨negative, digits, 0, 0, true⟩) :: found) .between rest := by
  obtain ⟨ds, written, bounded, value, leading⟩ := exists_digits (show 1 < 10 by decide) digits
  obtain ⟨d, ds, rfl⟩ := List.exists_cons_of_ne_nil (ne_nil_of_written written)
  obtain ⟨small, bounded⟩ := List.forall_mem_cons.mp bounded
  by_cases zero : d = 0
  · -- A number that begins with a zero is zero, and has no other digit.
    subst zero
    obtain rfl := leading rfl
    rw [Nat.toDigits_zero, List.singleton_append, tokensAfter]
    rw [show '0' = Nat.digitChar 0 from rfl, first 0 small]
    exact tokensAfter_numeral (.inl rfl) found follows
  · rw [written, List.map_cons, List.cons_append, tokensAfter, first d small, if_neg zero]
    dsimp only
    rw [tokensAfter_digits bounded rfl, List.reverse_nil, List.nil_append,
      tokensAfter_numeral (.inr rfl) found follows]
    have read : ds.foldl (fun n d => 10 * n + d) d = digits := by
      rw [← value, ofDigits, List.foldl_cons, Nat.mul_zero, Nat.zero_add]
    simp [Numeral.number, read]

theorem lexes_number {n : Number} (plain : n = ⟨n.negative, n.digits, 0, 0, true⟩) :
    Lexes n.print.toList [.value (.number n)] := by
  obtain ⟨negative, digits, places, exponent, plain⟩ := n
  cases plain
  intro found rest follows
  cases negative with
  | false =>
    have text : (Number.print ⟨false, digits, 0, 0, true⟩).toList = Nat.toDigits 10 digits := by
      simp [Number.print]
    rw [text]
    exact tokensAfter_toDigits .between start_digitChar digits found follows
  | true =>
    have text : (Number.print ⟨true, digits, 0, 0, true⟩).toList = '-' :: Nat.toDigits 10 digits := by
      simp [Number.print]
    rw [text, List.cons_append, tokensAfter]
    refine tokensAfter_toDigits (.numeral { stage := .sign, negative := true })
      (fun d small => ?_) digits found follows
    simp [Lexer.step, Numeral.push?, decimalDigit?_digitChar d small]

end Numerals

section Strings

theorem hexDigit?_digitChar : ∀ d < 16, hexDigit? d.digitChar = some d := by decide

theorem tokensAfter_unit (d : Draft) {n : Nat} (control : n < 32) (found : List Token)
    (rest : List Char) :
    tokensAfter found (.string d)
        (['\\', 'u', '0', '0', Nat.digitChar (n / 16), Nat.digitChar (n % 16)] ++ rest) =
      tokensAfter found (.string (d.push (Char.ofNat n))) rest := by
  have low : ¬(56320 ≤ n ∧ n ≤ 57343) := by omega
  have high : ¬(55296 ≤ n ∧ n ≤ 56319) := by omega
  have zero : hexDigit? '0' = some 0 := rfl
  simp [tokensAfter, Lexer.step, zero, hexDigit?_digitChar (n / 16) (by omega),
    hexDigit?_digitChar (n % 16) (by omega), Nat.div_add_mod, Draft.pushUnit, low, high]

theorem tokensAfter_escapeChar (d : Draft) (c : Char) (found : List Token) (rest : List Char) :
    tokensAfter found (.string d) (escapeChar c ++ rest) =
      tokensAfter found (.string (d.push c)) rest := by
  have code {n : Nat} (same : c.toNat = n) : c = Char.ofNat n := by rw [← same, Char.ofNat_toNat]
  unfold escapeChar
  split_ifs with quote slash feed carriage tab backspace page control
  · subst quote; rfl
  · subst slash; rfl
  · subst feed; rfl
  · subst carriage; rfl
  · subst tab; rfl
  · rw [code backspace]; rfl
  · rw [code page]; rfl
  · rw [tokensAfter_unit d control, Char.ofNat_toNat]
  · simp [tokensAfter, Lexer.step, quote, slash, control]

theorem tokensAfter_escaped (cs : List Char) (d : Draft) (found : List Token) (rest : List Char) :
    tokensAfter found (.string d) (cs.flatMap escapeChar ++ rest) =
      tokensAfter found (.string (cs.foldl Draft.push d)) rest := by
  induction cs generalizing d with
  | nil => rfl
  | cons c cs ih =>
    rw [List.flatMap_cons, List.append_assoc, tokensAfter_escapeChar, ih, List.foldl_cons]

theorem content_foldl_push (cs before : List Char) :
    (cs.foldl Draft.push ⟨before, none, false⟩).content =
      some (String.ofList (before.reverse ++ cs)) := by
  induction cs generalizing before with
  | nil => simp [Draft.content, Draft.settle]
  | cons c cs ih =>
    refine (ih (c :: before)).trans ?_
    rw [List.reverse_cons, List.append_assoc, List.singleton_append]

theorem lexes_escape (s : String) : Lexes (escape s).toList [.value (.string (some s))] := by
  intro found rest follows
  have text : (escape s).toList ++ rest = '"' :: (s.toList.flatMap escapeChar ++ '"' :: rest) := by
    simp [escape]
  have content : (s.toList.foldl Draft.push {}).content = some s :=
    (content_foldl_push s.toList []).trans (by simp)
  rw [text, tokensAfter, Lexer.step, Lexer.start]
  dsimp only
  rw [tokensAfter_escaped, tokensAfter, Lexer.step, if_pos rfl, content]
  rfl

end Strings

theorem lexes_word {c : Char} {word : List Char} {v : Value}
    (start : Lexer.start c = some (.word word v, [])) (some : word ≠ []) :
    Lexes (c :: word) [.value v] := by
  have goes (word : List Char) (some : word ≠ []) (found : List Token) (rest : List Char) :
      tokensAfter found (.word word v) (word ++ rest) =
        tokensAfter (.value v :: found) .between rest := by
    induction word with
    | nil => exact absurd rfl some
    | cons next word ih =>
      rw [List.cons_append, tokensAfter, Lexer.step]
      cases word with
      | nil => simp
      | cons next' word => simpa using ih (List.cons_ne_nil _ _)
  intro found rest follows
  rw [List.cons_append, tokensAfter, Lexer.step, start]
  exact goes word some found rest

theorem lexes_entry {v : Value} (value : Lexes v.print.toList v.tokens) (key : String) :
    Lexes (escape key ++ ":" ++ v.print).toList
      (.value (.string (some key)) :: .colon :: v.tokens) := by
  have text : (escape key ++ ":" ++ v.print).toList =
      (escape key).toList ++ ':' :: v.print.toList := by simp
  rw [text]
  exact (lexes_escape key).append (value.cons rfl) fun _ _ => follows_cons (by simp) _

theorem toList_intercalate_cons (first : String) (parts : List String) :
    (",".intercalate (first :: parts)).toList =
      first.toList ++ parts.flatMap fun part => ',' :: part.toList := by
  induction parts generalizing first with
  | nil => simp
  | cons part parts ih =>
    rw [String.intercalate_cons_cons, String.toList_append, String.toList_append, ih]
    simp

theorem follows_parts (parts : List String) (rest : List Char) (follows : Follows rest) :
    Follows ((parts.flatMap fun part => ',' :: part.toList) ++ rest) := by
  cases parts with
  | nil => exact follows
  | cons part parts => exact follows_cons (by simp) _

mutual

theorem lexes_print (v : Value) (plain : v.isPlain = true) : Lexes v.print.toList v.tokens := by
  match v with
  | .null => exact lexes_word rfl (List.cons_ne_nil _ _)
  | .bool true => exact lexes_word rfl (List.cons_ne_nil _ _)
  | .bool false => exact lexes_word rfl (List.cons_ne_nil _ _)
  | .number n => exact lexes_number (by simpa [Value.isPlain] using plain)
  | .string (some s) => exact lexes_escape s
  | .array [] => exact (lexes_nil.cons rfl).cons rfl
  | .array (v :: items) =>
    have ⟨first, others⟩ : v.isPlain = true ∧ plainItems items = true := by
      simpa [Value.isPlain, plainItems] using plain
    have inside := (lexes_print v first).append (lexes_items items others)
      fun rest => follows_parts _ rest
    rw [Value.print, printItems, String.toList_append, String.toList_append,
      toList_intercalate_cons]
    exact (inside.concat (c := ']') (by simp) rfl).cons rfl
  | .object [] => exact (lexes_nil.cons rfl).cons rfl
  | .object ((some key, v) :: entries) =>
    have ⟨first, others⟩ : v.isPlain = true ∧ plainEntries entries = true := by
      simpa [Value.isPlain, plainEntries] using plain
    have inside := (lexes_entry (lexes_print v first) key).append (lexes_entries entries others)
      fun rest => follows_parts _ rest
    rw [Value.print, printEntries, String.toList_append, String.toList_append,
      toList_intercalate_cons]
    exact (inside.concat (c := '\x7d') (by simp) rfl).cons rfl

theorem lexes_items (items : List Value) (plain : plainItems items = true) :
    Lexes ((printItems items).flatMap fun part => ',' :: part.toList) (itemTokens items) := by
  match items with
  | [] => exact lexes_nil
  | v :: items =>
    have ⟨first, others⟩ : v.isPlain = true ∧ plainItems items = true := by
      simpa [plainItems] using plain
    exact ((lexes_print v first).append (lexes_items items others)
      fun rest => follows_parts _ rest).cons rfl

theorem lexes_entries (entries : List (Content × Value)) (plain : plainEntries entries = true) :
    Lexes ((printEntries entries).flatMap fun part => ',' :: part.toList)
      (entryTokens entries) := by
  match entries with
  | [] => exact lexes_nil
  | (some key, v) :: entries =>
    have ⟨first, others⟩ : v.isPlain = true ∧ plainEntries entries = true := by
      simpa [plainEntries] using plain
    exact ((lexes_entry (lexes_print v first) key).append (lexes_entries entries others)
      fun rest => follows_parts _ rest).cons rfl

end

end Lexing

/-- A plain value is read from its text. -/
theorem parse?_print {v : Value} (plain : v.isPlain = true) : parse? v.print = some v := by
  have tokens : tokens? v.print.toList = some v.tokens := by
    have lexed := lexes_print v plain [] [] (.inl rfl)
    simpa [tokens?, tokensAfter, Lexer.finish] using lexed
  have run := run_tokens v [] []
  rw [List.append_nil] at run
  rw [parse?, tokens, Option.bind_some, run]
  rfl

end AddressSync.Json
