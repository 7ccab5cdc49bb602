import AddressSync.Detection.Source
import AddressSync.Proofs.Http.Dialogue
import AddressSync.Proofs.Text.Blank
import Mathlib.Logic.Relation

/-! The address that is read off a page. Where a page has a line for it, nothing else on the page
matters: other lines may come and go, lines may end in either way, and there may be blanks around
them. -/

namespace AddressSync.Detection

open Text Http

def IsForAddress (line : List Char) : Prop := key <+: strip line

instance (line : List Char) : Decidable (IsForAddress line) :=
  inferInstanceAs (Decidable (key <+: strip line))

def Gives (page rest : List Char) : Prop :=
  ∃ earlier line later, lines page = earlier ++ line :: later ∧ strip line = key ++ rest ∧
    ∀ other ∈ earlier, ¬ IsForAddress other

/-- The text that a page has for the address. -/
inductive Says (page : List Char) : List Char → Prop
  | line {rest : List Char} (given : Gives page rest) : Says page (strip rest)
  | whole (none : ∀ line ∈ lines page, ¬ IsForAddress line) : Says page (strip page)

def AtLineStart (before : List Char) : Prop := before = [] ∨ ∃ front, before = front ++ ['\n']

def AtLineEnd (behind : List Char) : Prop := behind = [] ∨ ∃ rest, behind = '\n' :: rest

/-- One change to what stands around the line for the address. -/
inductive Edit : List Char → List Char → Prop
  | insert {before line : List Char} (behind : List Char) (start : AtLineStart before) (single : '\n' ∉ line)
      (other : ¬ IsForAddress line) : Edit (before ++ behind) (before ++ line ++ '\n' :: behind)
  | append {line : List Char} (page : List Char) (single : '\n' ∉ line)
      (other : ¬ IsForAddress line) : Edit page (page ++ '\n' :: line)
  | breakLine (before behind : List Char) :
      Edit (before ++ '\n' :: behind) (before ++ '\r' :: '\n' :: behind)
  | pad {before line padded behind : List Char} (start : AtLineStart before)
      (stop : AtLineEnd behind) (around : IsPadded padded line) (single : '\n' ∉ padded) :
      Edit (before ++ line ++ behind) (before ++ padded ++ behind)

variable {page page' before behind line padded cs start rest text : List Char}

section Lines

theorem lineValue?_eq_some_iff : lineValue? line = some rest ↔ strip line = key ++ rest :=
  after?_eq_some_iff

theorem lineValue?_eq_none_iff : lineValue? line = none ↔ ¬ IsForAddress line := by
  rw [Option.eq_none_iff_forall_ne_some, IsForAddress, List.IsPrefix, not_exists]
  exact forall_congr' fun rest => not_congr (lineValue?_eq_some_iff.trans eq_comm)

theorem lineValue?_of_isPadded (around : IsPadded padded line) :
    lineValue? padded = lineValue? line := by
  rw [lineValue?, strip_of_isPadded around, lineValue?]

theorem not_mem_of_isPadded (around : IsPadded padded line) (single : '\n' ∉ padded) :
    '\n' ∉ line := by
  obtain ⟨front, back, rfl, -⟩ := around
  exact fun mem => single (by simp [mem])

def unreturned (line : List Char) : List Char :=
  match line.reverse with
  | '\r' :: front => front.reverse
  | _ => line

theorem lines_of_pieces {front : List (List Char)} {last : List Char}
    (split : pieces '\n' cs = front ++ [last]) :
    lines cs = front.map unreturned ++ if last.isEmpty then [] else [last] := by
  rw [lines, split, List.reverse_append, List.reverse_singleton, List.singleton_append]
  simp only [List.reverse_reverse]
  change (if last.isEmpty then front.map unreturned else front.map unreturned ++ [last]) = _
  split
  · rw [List.append_nil]
  · rfl

/-- How a line ends makes no difference to a search that does not look at blanks. -/
theorem findSome?_lines {α : Type} {f : List Char → Option α} (empty : f [] = none)
    (ended : ∀ line, f (line ++ ['\r']) = f line) (cs : List Char) :
    (lines cs).findSome? f = (pieces '\n' cs).findSome? f := by
  have closed : f ∘ unreturned = f := by
    funext line
    rw [Function.comp_apply, unreturned]
    split
    · next front backwards =>
      rw [List.reverse_eq_cons_iff] at backwards
      rw [backwards, ended]
    · rfl
  have some : pieces '\n' cs ≠ [] := pieces_eq_splitOn '\n' cs ▸ List.splitOn_ne_nil '\n' cs
  obtain ⟨front, last, split⟩ := List.eq_nil_or_concat' _ |>.resolve_left some
  rw [lines_of_pieces split, split, List.findSome?_append, List.findSome?_append,
    List.findSome?_map, closed]
  split
  · next none => rw [List.isEmpty_iff.mp none, List.findSome?_singleton, empty, List.findSome?_nil]
  · rfl

end Lines

section Told

def told? (page : List Char) : Option (List Char) := (lines page).findSome? lineValue?

theorem addressText_eq (page : List Char) : addressText page = strip ((told? page).getD page) := rfl

theorem told?_eq (page : List Char) : told? page = (pieces '\n' page).findSome? lineValue? :=
  findSome?_lines rfl (fun line => lineValue?_of_isPadded (isPadded_return line)) page

theorem told?_nil : told? [] = none := rfl

theorem told?_line (single : '\n' ∉ line) : told? line = lineValue? line := by
  rw [told?_eq, pieces_of_not_mem single, List.findSome?_singleton]

theorem told?_append (before behind : List Char) :
    told? (before ++ '\n' :: behind) = (told? before).or (told? behind) := by
  simp only [told?_eq, pieces_eq_splitOn, List.splitOn_append_cons_self, List.findSome?_append]

theorem told?_behind (start : AtLineStart before) (cs : List Char) :
    told? (before ++ cs) = (told? before).or (told? cs) := by
  obtain rfl | ⟨front, rfl⟩ := start
  · rfl
  · rw [List.append_assoc, List.singleton_append, told?_append, told?_append, told?_nil,
      Option.or_none]

theorem told?_ahead (stop : AtLineEnd behind) (cs : List Char) :
    told? (cs ++ behind) = (told? cs).or (told? behind) := by
  obtain rfl | ⟨rest, rfl⟩ := stop
  · rw [List.append_nil, told?_nil, Option.or_none]
  · have empty : told? ('\n' :: rest) = told? rest := told?_append [] rest
    rw [told?_append, empty]

theorem told?_append_blank (cs : List Char) : told? (cs ++ ['\r']) = told? cs := by
  by_cases single : '\n' ∈ cs
  · obtain ⟨first, more, split, -⟩ := List.eq_append_cons_of_mem single
    have shorter : more.length < cs.length := by
      rw [split, List.length_append, List.length_cons]
      omega
    rw [split, List.append_assoc, List.cons_append, told?_append, told?_append,
      told?_append_blank more]
  · rw [told?_line (by simp [single]), told?_line single]
    exact lineValue?_of_isPadded (isPadded_return cs)
termination_by cs.length

theorem Edit.told?_eq (edit : Edit page page') : told? page' = told? page := by
  cases edit with
  | insert behind start single other =>
    rw [List.append_assoc, told?_behind start, told?_append, told?_line single,
      lineValue?_eq_none_iff.mpr other, Option.none_or, told?_behind start]
  | append _ single other =>
    rw [told?_append, told?_line single, lineValue?_eq_none_iff.mpr other, Option.or_none]
  | breakLine before behind =>
    have broken : before ++ '\r' :: '\n' :: behind = (before ++ ['\r']) ++ '\n' :: behind := by simp
    rw [broken, told?_append, told?_append_blank, told?_append]
  | pad start stop around single =>
    have bare := not_mem_of_isPadded around single
    rw [List.append_assoc, told?_behind start, told?_ahead stop, told?_line single,
      lineValue?_of_isPadded around, List.append_assoc, told?_behind start, told?_ahead stop,
      told?_line bare]

theorem told?_of_eqvGen (edits : Relation.EqvGen Edit page page') : told? page' = told? page := by
  induction edits with
  | rel _ _ edit => exact edit.told?_eq
  | refl _ => rfl
  | symm _ _ _ ih => exact ih.symm
  | trans _ _ _ _ _ ih ih' => exact ih'.trans ih

theorem gives_iff : Gives page rest ↔ told? page = some rest := by
  rw [told?, List.findSome?_eq_some_iff]
  simp only [lineValue?_eq_some_iff, lineValue?_eq_none_iff, Gives]

theorem told?_eq_none_iff : told? page = none ↔ ∀ line ∈ lines page, ¬ IsForAddress line := by
  rw [told?, List.findSome?_eq_none_iff]
  exact forall₂_congr fun _ _ => lineValue?_eq_none_iff

theorem addressText_of_gives (given : Gives page rest) : addressText page = strip rest := by
  rw [addressText_eq, gives_iff.mp given, Option.getD_some]

theorem addressText_of_none (none : ∀ line ∈ lines page, ¬ IsForAddress line) :
    addressText page = strip page := by
  rw [addressText_eq, told?_eq_none_iff.mpr none, Option.getD_none]

theorem says_iff : Says page text ↔ addressText page = text := by
  constructor
  · rintro (given | none)
    · exact addressText_of_gives given
    · exact addressText_of_none none
  · rintro rfl
    cases found : told? page with
    | some rest =>
      have given := gives_iff.mpr found
      exact addressText_of_gives given ▸ .line given
    | none =>
      have none := told?_eq_none_iff.mp found
      exact addressText_of_none none ▸ .whole none

end Told

section Detected

variable {source : Source} {wording : Wording} {family : Family} {url : String} {address : Address}
  {status : Nat}

def Source.detected (source : Source) (wording : Wording) (family : Family) (reply : Reply) :
    Option (Except Miss Address) :=
  (dialogue (source.detect wording family) [reply]).result?

theorem detected_eq (source : Source) (wording : Wording) (family : Family) (reply : Reply) :
    source.detected wording family reply =
      match source.url? family with
      | none => some (.error (.noEndpoint family))
      | some url => some (readReply wording url family reply) := by
  rw [Source.detected, Source.detect]
  cases source.url? family with
  | none => rfl
  | some url =>
    have asked : ∀ f : Reply → Http (Except Miss Address),
        dialogue (exchange (request url) >>= f) [reply] =
          (dialogue (f reply) []).after [.exchange (request url) (some reply)] :=
      fun _ => rfl
    simp only [asked, Dialogue.result?_after]
    cases readReply wording url family reply <;> rfl

theorem readReply_of_isSuccess (success : isSuccess status = true) (page : String) :
    readReply wording url family (.response status page) =
      match Address.parseChars? (addressText page.toList) with
      | none => .error (.notAddress (String.ofList (addressText page.toList)))
      | some address =>
        if address.family ≠ family then .error (.otherFamily url address family)
        else .ok address := by
  unfold readReply
  exact if_neg (by simp [success])

theorem readReply_eq_ok_iff {reply : Reply} : readReply wording url family reply = .ok address ↔
    ∃ status page, reply = .response status page ∧ isSuccess status = true ∧
      Address.parseChars? (addressText page.toList) = some address ∧ address.family = family := by
  constructor
  · intro read
    cases reply with
    | none | cut => cases read
    | response status page =>
      by_cases success : isSuccess status = true
      · refine ⟨status, page, rfl, success, ?_⟩
        rw [readReply_of_isSuccess success] at read
        split at read
        · cases read
        · next found parsed =>
          split_ifs at read with other
          cases read
          exact ⟨parsed, not_not.mp other⟩
      · rw [readReply, if_pos (by simpa using success)] at read
        cases read
  · rintro ⟨status, page, rfl, success, parsed, fits⟩
    rw [readReply_of_isSuccess success, parsed]
    exact if_neg (not_not.mpr fits)

theorem readReply_eq_notAddress_iff (wording : Wording) (url : String) (family : Family)
    (success : isSuccess status = true) (page : String) :
    (∃ text, readReply wording url family (.response status page) = .error (.notAddress text)) ↔
      Address.parseChars? (addressText page.toList) = none := by
  rw [readReply_of_isSuccess success]
  split
  · next unread => exact ⟨fun _ => unread, fun _ => ⟨_, rfl⟩⟩
  · next parsed =>
    rw [parsed]
    split <;> simp

theorem detected_congr {page page' : String}
    (same : addressText page.toList = addressText page'.toList) :
    source.detected wording family (.response status page) =
      source.detected wording family (.response status page') := by
  simp only [detected_eq, readReply, same]

theorem detected_of_gives {page page' : String} (given : Gives page.toList rest)
    (given' : Gives page'.toList rest) :
    source.detected wording family (.response status page) =
      source.detected wording family (.response status page') :=
  detected_congr ((addressText_of_gives given).trans (addressText_of_gives given').symm)

theorem exists_gives (for_it : ∃ line ∈ lines page, IsForAddress line) : ∃ rest, Gives page rest := by
  simp only [gives_iff]
  rw [← Option.ne_none_iff_exists', Ne, told?_eq_none_iff]
  simpa using for_it

theorem gives_of_eqvGen (edits : Relation.EqvGen Edit page page') :
    Gives page rest ↔ Gives page' rest := by
  rw [gives_iff, gives_iff, told?_of_eqvGen edits]

end Detected

/-- The address of a family is found out exactly if the reply is a page, sent with a success, whose
text for the address is an address of that family; whatever else comes, detection fails. A page with
a line for the address has what its first such line says, and however the rest of it is changed, the
outcome stays the same. Any other page must itself be the address. -/
theorem detect_exact (source : Source) (wording : Wording) (family : Family) :
    (∀ reply, ∃ result, source.detected wording family reply = some result ∧
      (∀ address, result = .ok address ↔ (source.url? family).isSome ∧
        ∃ status page text, reply = .response status page ∧ 200 ≤ status ∧ status < 300 ∧
          Says page.toList text ∧ Address.parseChars? text = some address ∧
          address.family = family) ∧
      ∀ miss, result = .error miss → ∃ detail, miss.failure = .detection detail) ∧
    (∀ status page page' rest, Gives page.toList rest → Gives page'.toList rest →
      source.detected wording family (.response status page) =
        source.detected wording family (.response status page')) ∧
    (∀ status page page', Relation.EqvGen Edit page.toList page'.toList →
      (∃ line ∈ lines page.toList, IsForAddress line) →
        (∀ rest, Gives page.toList rest ↔ Gives page'.toList rest) ∧
        source.detected wording family (.response status page) =
          source.detected wording family (.response status page')) ∧
    ∀ status page, 200 ≤ status → status < 300 → (source.url? family).isSome →
      (∀ line ∈ lines page.toList, ¬ IsForAddress line) →
        ((∃ text, source.detected wording family (.response status page) =
            some (.error (.notAddress text))) ↔
          Address.parseChars? (strip page.toList) = none) := by
  refine ⟨fun reply => ?_, fun _ _ _ _ given given' => detected_of_gives given given',
    fun status page page' edits for_it => ?_, fun status page low high asked none => ?_⟩
  · rw [detected_eq]
    cases source.url? family with
    | none => exact ⟨_, rfl, by simp, fun miss _ => ⟨miss.detail, rfl⟩⟩
    | some url =>
      refine ⟨_, rfl, fun address => ?_, fun miss _ => ⟨miss.detail, rfl⟩⟩
      simp [readReply_eq_ok_iff, says_iff, isSuccess, and_assoc]
  · obtain ⟨rest, given⟩ := exists_gives for_it
    exact ⟨fun _ => gives_of_eqvGen edits,
      detected_of_gives given ((gives_of_eqvGen edits).mp given)⟩
  · obtain ⟨url, chosen⟩ := Option.isSome_iff_exists.mp asked
    have success : isSuccess status = true := by simp [isSuccess, low, high]
    rw [detected_eq, chosen, ← addressText_of_none none,
      ← readReply_eq_notAddress_iff wording url family success]
    simp only [Option.some.injEq]

def quiet : Wording := ⟨fun _ _ => "", fun _ _ => ""⟩

theorem detect_exact_trace :
    Relation.EqvGen Edit "ip=203.0.113.7\n".toList "fl=29f1\nip=203.0.113.7\n".toList ∧
      Source.detected {} quiet .v4 (.response 200 "ip=203.0.113.7\n") =
        some (.ok (.ofOctets [203, 0, 113, 7])) ∧
      Source.detected {} quiet .v4 (.response 200 "fl=29f1\nip=203.0.113.7\n") =
        some (.ok (.ofOctets [203, 0, 113, 7])) ∧
      (∃ text, Source.detected {} quiet .v4 (.response 200 "<html>blocked</html>") =
        some (.error (.notAddress text))) := by
  obtain ⟨total, -, stays, whole⟩ := detect_exact {} quiet .v4
  have edits : Relation.EqvGen Edit "ip=203.0.113.7\n".toList
      "fl=29f1\nip=203.0.113.7\n".toList :=
    .rel _ _ (@Edit.insert [] "fl=29f1".toList _ (.inl rfl) (by decide) (by decide))
  have line : "ip=203.0.113.7".toList ∈ lines "ip=203.0.113.7\n".toList := by decide
  have same := (stays 200 _ _ edits ⟨_, line, by decide⟩).2
  have bare : Source.detected {} quiet .v4 (.response 200 "ip=203.0.113.7\n") =
      some (.ok (.ofOctets [203, 0, 113, 7])) := by
    obtain ⟨result, found, right, -⟩ := total (.response 200 "ip=203.0.113.7\n")
    rw [found, (right (.ofOctets [203, 0, 113, 7])).mpr ⟨rfl, 200, _, _, rfl, by decide, by decide,
      says_iff.mpr rfl, by decide, rfl⟩]
  exact ⟨edits, bare, same ▸ bare,
    (whole 200 "<html>blocked</html>" (by decide) (by decide) rfl (by decide)).mpr (by decide)⟩

end AddressSync.Detection
