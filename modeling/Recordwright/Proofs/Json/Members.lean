import Recordwright.Json.Members
import Recordwright.Proofs.Json.Skipped

/-!
# Records are read by their members

A record is read into a draft, one member at a time.  If a draft depends on nothing but which keys
were read, and each member adds its key, then the order of the members does not matter
(`Members.Fills`), and neither do members that the record does not know, for they are skipped.  So
every text that spells the record is read as this record (`Members.Fills.takes`).

The invariant of the loop over an object is `Pending`: each member is either still to come, once,
and was not read, or there is none of it among the entries that are left.  The loop over an array
takes the members in order, and so the keys that were read are those of the members taken.
-/

namespace Recordwright.Json

open Reader

variable {α δ : Type} {text body : List Char} {slots : List Slot} {depth fuel : Nat} {first : Bool}

/-! ### Lists -/

/-- The elements of an array up to its bracket. -/
theorem reads_listElements {spells : List Char → α → Prop} {r : Reader α} {as : List α}
    (listed : Listing spells ']' first as text) (opens : ∀ a ∈ as, ∀ t, spells t a → Opens t)
    (takes : ∀ a ∈ as, ∀ t, spells t a → Takes r t a) (enough : text.length ≤ fuel)
    (rest : List Char) :
    Reads (listElements r fuel first) (text ++ rest) as (']' :: rest) := by
  induction as generalizing fuel first text with
  | nil =>
    obtain ⟨fuel, rfl⟩ := Nat.exists_eq_add_one.mpr (Nat.lt_of_lt_of_le listed.length_pos enough)
    rw [listElements]
    exact (listed.no_element rest).bind (reads_pure _ _)
  | cons a as ih =>
    obtain ⟨fuel, rfl⟩ := Nat.exists_eq_add_one.mpr (Nat.lt_of_lt_of_le listed.length_pos enough)
    obtain ⟨opensFirst, opensOthers⟩ := List.forall_mem_cons.mp opens
    obtain ⟨takesFirst, takesOthers⟩ := List.forall_mem_cons.mp takes
    obtain ⟨item, tail, one, starts, more, length, found⟩ := listed.next_element opensFirst
    have positive := starts.length_pos
    have ends := more.endsNumber (.inl rfl) rest
    rw [listElements]
    refine (found rest).bind ?_
    refine (takesFirst item one blank_nil ends).bind ?_
    exact (ih more opensOthers takesOthers (by omega)).bind (reads_pure _ _)

/-- An array is read as the list of its elements. -/
theorem takes_list {spells : List Char → α → Prop} {r : Nat → Reader α} {as : List α}
    (listed : Listing spells ']' true as body) (opens : ∀ a ∈ as, ∀ t, spells t a → Opens t)
    (deep : 1 ≤ depth) (takes : ∀ a ∈ as, ∀ t, spells t a → Takes (r depth) t a) :
    Takes (Reader.list r (depth + 1)) ('[' :: body) as := by
  apply Takes.of_peek rfl
  intro rest _
  show Reads (if depth + 1 ≤ 1 then _ else do
    advance
    let as ← listElements (r depth) ((← get).length + 1) true
    endSequence
    return as) _ _ _
  rw [if_neg (by omega)]
  refine (reads_advance _ _).bind ?_
  have count : Reads get (body ++ rest) (body ++ rest) (body ++ rest) := rfl
  refine count.bind ?_
  have enough : body.length ≤ (body ++ rest).length + 1 := by
    rw [List.length_append]
    omega
  refine (reads_listElements listed opens takes enough rest).bind ?_
  exact Reads.bind (r := endSequence) (b := as) rfl rfl

/-! ### Entries -/

section Entries

variable {key : String} {e : String × List Char} {entries : List (String × List Char)}

/-- An entry is longer than its value. -/
theorem SpellsEntry.length_lt {κ : Type} {spells : List Char → κ → Prop} {item : List Char}
    {m : κ × List Char} (h : SpellsEntry spells item m) : m.2.length < item.length := by
  obtain ⟨-, -, -⟩ := h
  simp only [List.length_append, List.length_cons]
  omega

/-- An entry begins with the quote of its key. -/
theorem SpellsEntry.exists_quote {item : List Char} (h : SpellsEntry SpellsString item e) :
    ∃ body, item = '\"' :: body := by
  obtain ⟨said, -, -⟩ := h
  obtain ⟨body, rfl, -⟩ := said.exists_eq_cons
  exact ⟨_, rfl⟩

/-- The key of an entry is read, and its value stands behind the colon. -/
theorem SpellsEntry.reads_key {item value : List Char}
    (h : SpellsEntry SpellsString item (key, value)) :
    ∃ behind front, Blank behind ∧ Blank front ∧ ∀ tail,
      Reads Reader.key (item ++ tail) key (behind ++ ':' :: (front ++ (value ++ tail))) := by
  cases h with
  | @mk text _ behind front _ said after before =>
    obtain ⟨body, rfl, read⟩ := said.exists_eq_cons
    refine ⟨behind, front, after, before, fun tail => ?_⟩
    have shown : '\"' :: body ++ (behind ++ ':' :: (front ++ value)) ++ tail =
        '\"' :: (body ++ (behind ++ ':' :: (front ++ (value ++ tail)))) := by
      simp only [List.cons_append, List.append_assoc]
    rw [shown]
    exact (reads_advance _ _).bind (reads_ofFunction (read _))

theorem valuesOf_cons_self (h : e.1 = key) :
    valuesOf key (e :: entries) = e.2 :: valuesOf key entries := by
  have kept : (e.1 == key) = true := beq_iff_eq.mpr h
  simp only [valuesOf, List.filter_cons, kept, if_true, List.map_cons]

theorem valuesOf_cons_of_ne (h : e.1 ≠ key) :
    valuesOf key (e :: entries) = valuesOf key entries := by
  have dropped : (e.1 == key) = false := beq_false_of_ne h
  simp only [valuesOf, List.filter_cons, dropped, Bool.false_eq_true, if_false]

/-- The member is to come once and was not read yet, or it does not come. -/
def Slot.Pending (s : Slot) (keys : List String) (entries : List (String × List Char)) : Prop :=
  valuesOf s.key entries = [] ∨
    s.key ∉ keys ∧ ∃ value, valuesOf s.key entries = [value] ∧ s.spells value

variable {s t : Slot} {keys : List String}

/-- At the start no key was read. -/
theorem Slot.IsSaid.pending (h : s.IsSaid entries) : s.Pending [] entries := by
  rcases h with ⟨value, once, said⟩ | ⟨none, -⟩
  · exact .inr ⟨List.not_mem_nil, value, once, said⟩
  · exact .inl none

/-- An entry for another key changes nothing. -/
theorem Slot.Pending.pass (h : s.Pending keys (e :: entries)) (other : e.1 ≠ s.key) :
    s.Pending keys entries := by
  unfold Slot.Pending at h ⊢
  rwa [valuesOf_cons_of_ne other] at h

/-- An entry for the key is the only one. -/
theorem Slot.Pending.take (h : s.Pending keys (e :: entries)) (same : e.1 = s.key) :
    s.key ∉ keys ∧ s.spells e.2 ∧ valuesOf s.key entries = [] := by
  unfold Slot.Pending at h
  rw [valuesOf_cons_self same] at h
  rcases h with none | ⟨unread, value, once, said⟩
  · cases none
  · obtain ⟨rfl, left⟩ := List.cons.inj once
    exact ⟨unread, said, left⟩

/-- Once an entry is taken, its member does not come again, and the others are as before. -/
theorem Slot.Pending.after_take (h : s.Pending keys (e :: entries)) :
    s.Pending (e.1 :: keys) entries := by
  by_cases same : e.1 = s.key
  · exact .inl (h.take same).2.2
  · rcases h.pass same with none | ⟨unread, coming⟩
    · exact .inl none
    · refine .inr ⟨?_, coming⟩
      rw [List.mem_cons, not_or]
      exact ⟨fun equal => same equal.symm, unread⟩

/-- A value of a key is that of an entry. -/
theorem mem_keys_of_valuesOf {value : List Char} (h : valuesOf key entries = [value]) :
    key ∈ entries.map (·.1) := by
  have member : value ∈ valuesOf key entries := h ▸ List.mem_singleton_self value
  obtain ⟨e, kept, -⟩ := List.mem_map.mp member
  obtain ⟨there, same⟩ := List.mem_filter.mp kept
  exact List.mem_map.mpr ⟨e, there, beq_iff_eq.mp same⟩

end Entries

/-! ### Members and drafts -/

section Read

variable {β : Type} {key other : String} {v w : β} {keys : List String}

/-- A part of a draft: the value, if the key was read. -/
def ifRead (key : String) (v : β) (keys : List String) : Option β :=
  if key ∈ keys then some v else none

@[simp] theorem ifRead_cons_self : ifRead key v (key :: keys) = some v :=
  if_pos List.mem_cons_self

theorem ifRead_cons_of_ne (h : key ≠ other) : ifRead key v (other :: keys) = ifRead key v keys := by
  simp only [ifRead, List.mem_cons, h, false_or]

theorem ifRead_of_mem (h : key ∈ keys) : ifRead key v keys = some v := if_pos h

theorem mem_of_isSome_ifRead (h : (ifRead key v keys).isSome = true) : key ∈ keys := by
  by_contra unread
  rw [ifRead, if_neg unread] at h
  cases h

/-- A value that was not read is the one that goes without saying. -/
theorem getD_ifRead (h : key ∈ keys ∨ v = w) : (ifRead key v keys).getD w = v := by
  unfold ifRead
  split
  next => rfl
  next unread => exact (h.resolve_left unread).symm

end Read

/-- The member reads what is said of it.  `draft` gives the draft from the keys that were read. -/
structure Member.Fills (member : Member δ) (depth : Nat) (draft : List String → δ) (s : Slot) :
    Prop where
  key : member.key = s.key
  optional : s.Omissible → member.optional = true
  seen : ∀ keys, member.seen (draft keys) = true → s.key ∈ keys
  opens : ∀ text, s.spells text → Opens text
  takes : ∀ keys text, s.spells text →
    Takes (member.read depth (draft keys)) text (draft (s.key :: keys))

/-- The record is made of what is said of its members. -/
structure Members.Fills (m : Members δ α) (depth : Nat) (slots : List Slot)
    (draft : List String → δ) (a : α) : Prop where
  members : List.Forall₂ (fun member s => Member.Fills member depth draft s) m.members slots
  keys_nodup : (slots.map (·.key)).Nodup
  empty : m.empty = draft []
  finish : ∀ keys, (∀ s ∈ slots, s.key ∈ keys ∨ s.Omissible) → m.finish (draft keys) = .ok a

namespace Members.Fills

variable {m : Members δ α} {draft : List String → δ} {a : α} {keys : List String}

/-- The member for a key that is known. -/
theorem find?_of_mem (h : m.Fills depth slots draft a) {s : Slot} (member : s ∈ slots) :
    ∃ found, m.members.find? (·.key == s.key) = some found ∧ found.Fills depth draft s := by
  obtain ⟨members, nodup, -, -⟩ := h
  generalize m.members = ms at members ⊢
  induction members with
  | nil => cases member
  | @cons first t members slots fills others ih =>
    rw [List.map_cons, List.nodup_cons] at nodup
    rcases List.mem_cons.mp member with rfl | member
    · exact ⟨first, List.find?_cons_of_pos (beq_iff_eq.mpr fills.key), fills⟩
    · -- no two members share a key, so the first one is passed over
      have other : (first.key == s.key) = false := by
        rw [fills.key]
        exact beq_false_of_ne fun same => nodup.1 (same ▸ List.mem_map_of_mem member)
      simp only [List.find?_cons, other]
      exact ih member nodup.2

theorem find?_eq_none (h : m.Fills depth slots draft a) {key : String}
    (unknown : ∀ s ∈ slots, s.key ≠ key) : m.members.find? (·.key == key) = none := by
  obtain ⟨members, -, -, -⟩ := h
  generalize m.members = ms at members ⊢
  induction members with
  | nil => rfl
  | @cons member s members slots fills others ih =>
    obtain ⟨first, unknown⟩ := List.forall_mem_cons.mp unknown
    have other : (member.key == key) = false := fills.key ▸ beq_false_of_ne first
    simp only [List.find?_cons, other]
    exact ih unknown

/-! ### Objects -/

section Step

variable {item tail rest value : List Char} {d : δ}

/-- An entry for a member that was not read yet: it is read, and the loop goes on behind it. -/
theorem reads_known_entry (h : m.Fills depth slots draft a) {s : Slot} (member : s ∈ slots)
    (unread : s.key ∉ keys) (entry : SpellsEntry SpellsString item (s.key, value))
    (spelled : s.spells value) (found : Reads (hasKey first) text true (item ++ tail))
    (ends : EndsNumber tail)
    (reads : Reads (m.readObject depth fuel false (draft (s.key :: keys))) tail d rest) :
    Reads (m.readObject depth (fuel + 1) first (draft keys)) text d rest := by
  obtain ⟨behind, front, after, before, readKey⟩ := entry.reads_key
  obtain ⟨member', find, fills⟩ := h.find?_of_mem member
  have unseen : ¬ member'.seen (draft keys) = true := fun seen => unread (fills.seen keys seen)
  rw [readObject]
  refine found.bind ?_
  refine (readKey tail).bind ?_
  simp only [find]
  rw [if_neg unseen]
  refine (reads_colon_behind after _).bind ?_
  exact (fills.takes keys value spelled before ends).bind reads

/-- An entry for no member of the record: its value is skipped, and the draft stays as it is. -/
theorem reads_unknown_entry (h : m.Fills depth slots draft a) {key : String}
    (unknown : ∀ s ∈ slots, s.key ≠ key) (entry : SpellsEntry SpellsString item (key, value))
    (isValue : IsValue value) (found : Reads (hasKey first) text true (item ++ tail))
    (ends : EndsNumber tail)
    (reads : Reads (m.readObject depth fuel false (draft keys)) tail d rest) :
    Reads (m.readObject depth (fuel + 1) first (draft keys)) text d rest := by
  obtain ⟨behind, front, after, before, readKey⟩ := entry.reads_key
  rw [readObject]
  refine found.bind ?_
  refine (readKey tail).bind ?_
  simp only [h.find?_eq_none unknown]
  refine (reads_colon_behind after _).bind ?_
  exact (takes_skipValue isValue before ends).bind reads

end Step

/-- The entries of an object up to its brace: each member that is among them is read. -/
theorem reads_readObject (h : m.Fills depth slots draft a)
    {entries : List (String × List Char)}
    (listed : Listing (SpellsEntry SpellsString) '\x7d' first entries text)
    (pending : ∀ s ∈ slots, s.Pending keys entries)
    (others : ∀ e ∈ entries, (∀ s ∈ slots, s.key ≠ e.1) → IsValue e.2)
    (enough : text.length ≤ fuel) (rest : List Char) :
    ∃ read : List String,
      (∀ s ∈ slots, s.key ∈ keys ∨ s.key ∈ entries.map (·.1) → s.key ∈ read) ∧
      Reads (m.readObject depth fuel first (draft keys)) (text ++ rest) (draft read)
        ('\x7d' :: rest) := by
  -- On the entries, for any keys that were read before them.
  induction entries generalizing fuel first text keys with
  | nil =>
    obtain ⟨fuel, rfl⟩ := Nat.exists_eq_add_one.mpr (Nat.lt_of_lt_of_le listed.length_pos enough)
    refine ⟨keys, fun s _ known => known.resolve_right List.not_mem_nil, ?_⟩
    rw [readObject]
    exact (listed.no_entry rest).bind (reads_pure _ _)
  | cons e entries ih =>
    obtain ⟨fuel, rfl⟩ := Nat.exists_eq_add_one.mpr (Nat.lt_of_lt_of_le listed.length_pos enough)
    obtain ⟨otherFirst, otherRest⟩ := List.forall_mem_cons.mp others
    obtain ⟨item, tail, one, more, length, found⟩ :=
      listed.next_entry fun item one => one.exists_quote
    have ends := more.endsNumber (.inr rfl) rest
    have shorter : tail.length ≤ fuel := by
      have nonempty := one.length_lt
      omega
    by_cases known : ∃ s ∈ slots, s.key = e.1
    · -- the member is to come once, and this is it
      obtain ⟨s, member, same⟩ := known
      obtain ⟨unread, spelled, -⟩ := (pending s member).take same.symm
      obtain ⟨read, all, reads⟩ := ih more
        (fun s member => (pending s member).after_take) otherRest shorter
      refine ⟨read, fun t there known => all t there ?_, ?_⟩
      · simpa only [List.map_cons, List.mem_cons, or_left_comm, or_assoc] using known
      · rw [← same] at reads
        exact h.reads_known_entry member unread (same ▸ one) spelled (found rest) ends reads
    · -- the member is none of the record's
      have unknown : ∀ s ∈ slots, s.key ≠ e.1 := by
        intro s member same
        exact known ⟨s, member, same⟩
      have pass : ∀ s ∈ slots, s.Pending keys entries := by
        intro s member
        exact (pending s member).pass fun same => unknown s member same.symm
      obtain ⟨read, all, reads⟩ := ih more pass otherRest shorter
      refine ⟨read, fun t there known => all t there ?_, ?_⟩
      · simpa only [List.map_cons, List.mem_cons, unknown t there, false_or] using known
      · exact h.reads_unknown_entry unknown one (otherFirst unknown) (found rest) ends reads

/-! ### Arrays -/

/-- An array may end before members that go without saying. -/
theorem reads_readArray_left {members : List (Member δ)} {left : List Slot}
    (fills : List.Forall₂ (fun member s => Member.Fills member depth draft s) members left)
    (omissible : ∀ s ∈ left, s.Omissible) {gap : List Char} (blank : Blank gap) (index : Nat)
    (d : δ) (rest : List Char) :
    ∃ behind, Blank behind ∧
      Reads (m.readArray depth index members d) (gap ++ ']' :: rest) d (behind ++ ']' :: rest) := by
  induction fills generalizing gap with
  | nil => exact ⟨gap, blank, rfl⟩
  | cons one others ih =>
    obtain ⟨here, omissible⟩ := List.forall_mem_cons.mp omissible
    -- only the first question meets blanks
    obtain ⟨behind, after, reads⟩ := ih omissible blank_nil
    refine ⟨behind, after, ?_⟩
    rw [readArray]
    refine (reads_hasElement_close blank _ rest).bind ?_
    rw [if_neg Bool.false_ne_true, if_pos (one.optional here)]
    exact reads

/-- The elements of an array: each is what is said of the member at its position. -/
theorem reads_readArray (m : Members δ α) {members : List (Member δ)} {written left : List Slot}
    (fills : List.Forall₂ (fun member s => Member.Fills member depth draft s) members
      (written ++ left)) (omissible : ∀ s ∈ left, s.Omissible) {index : Nat}
    (count : (index == 0) = first)
    (listed : Listing (fun text (s : Slot) => s.spells text) ']' first written text)
    (keys : List String) (rest : List Char) :
    ∃ read behind, (∀ s ∈ written, s.key ∈ read) ∧ (∀ key ∈ keys, key ∈ read) ∧ Blank behind ∧
      Reads (m.readArray depth index members (draft keys)) (text ++ rest) (draft read)
        (behind ++ ']' :: rest) := by
  induction written generalizing members index first text keys with
  | nil =>
    cases listed with
    | @close _ gap blank =>
      obtain ⟨behind, after, reads⟩ :=
        reads_readArray_left fills omissible blank index (draft keys) rest
      rw [List.append_assoc]
      exact ⟨keys, behind, fun s there => absurd there List.not_mem_nil, fun _ there => there,
        after, reads⟩
  | cons s written ih =>
    cases fills with
    | @cons member _ members _ one others =>
      obtain ⟨item, tail, spelled, opens, more, length, found⟩ := listed.next_element one.opens
      have ends := more.endsNumber (.inl rfl) rest
      have next : (index + 1 == 0) = false := rfl
      obtain ⟨read, behind, all, kept, after, reads⟩ := ih others next more (s.key :: keys)
      obtain ⟨here, kept⟩ := List.forall_mem_cons.mp kept
      refine ⟨read, behind, List.forall_mem_cons.mpr ⟨here, all⟩, kept, after, ?_⟩
      rw [readArray, count]
      refine (found rest).bind ?_
      exact (one.takes keys item spelled blank_nil ends).bind reads

/-! ### Records -/

theorem reads_close (h : m.Fills depth slots draft a)
    (all : ∀ s ∈ slots, s.key ∈ keys ∨ s.Omissible) (text : List Char) :
    Reads (m.close (draft keys)) text a text := by
  rw [close, h.finish keys all]
  exact reads_pure a text

/-- An object in which each member is said, or may be left unsaid, is read as the record. -/
theorem takes_object (h : m.Fills depth slots draft a) (deep : 1 ≤ depth)
    {entries : List (String × List Char)}
    (listed : Listing (SpellsEntry SpellsString) '\x7d' true entries body)
    (said : ∀ s ∈ slots, s.IsSaid entries)
    (others : ∀ e ∈ entries, (∀ s ∈ slots, s.key ≠ e.1) → IsValue e.2) :
    Takes (m.read (depth + 1)) ('\x7b' :: body) a := by
  apply Takes.of_peek rfl
  intro rest _
  have pending : ∀ s ∈ slots, s.Pending [] entries := fun s member => (said s member).pending
  have enough : body.length ≤ (body ++ rest).length + 1 := by
    rw [List.length_append]
    omega
  obtain ⟨read, all, reads⟩ := h.reads_readObject listed pending others enough rest
  -- a member that was not among the entries goes without saying
  have complete : ∀ s ∈ slots, s.key ∈ read ∨ s.Omissible := by
    intro s member
    rcases said s member with ⟨value, once, -⟩ | ⟨-, omissible⟩
    · exact .inl (all s member (.inr (mem_keys_of_valuesOf once)))
    · exact .inr omissible
  show Reads (if depth + 1 ≤ 1 then _ else do
    advance
    let draft ← m.readObject depth ((← get).length + 1) true m.empty
    let a ← m.close draft
    endObject
    return a) _ _ _
  rw [if_neg (by omega), h.empty]
  refine (reads_advance _ _).bind ?_
  have count : Reads get (body ++ rest) (body ++ rest) (body ++ rest) := rfl
  refine count.bind ?_
  refine reads.bind ?_
  refine (h.reads_close complete _).bind ?_
  exact Reads.bind (r := endObject) (b := a) rfl rfl

/-- An array of what is said of the first members is read as the record, if the members that are
left go without saying. -/
theorem takes_array (h : m.Fills depth slots draft a) (deep : 1 ≤ depth) {written left : List Slot}
    (whole : slots = written ++ left)
    (listed : Listing (fun text (s : Slot) => s.spells text) ']' true written body)
    (omissible : ∀ s ∈ left, s.Omissible) : Takes (m.read (depth + 1)) ('[' :: body) a := by
  apply Takes.of_peek rfl
  intro rest _
  have fills := h.members
  rw [whole] at fills
  -- By position nothing can come twice or be unknown; the end may come early.
  have start : (0 == 0) = true := rfl
  obtain ⟨read, behind, all, -, after, reads⟩ :=
    reads_readArray m fills omissible start listed [] rest
  have complete : ∀ s ∈ slots, s.key ∈ read ∨ s.Omissible := by
    intro s member
    rcases List.mem_append.mp (whole ▸ member) with written | left
    · exact .inl (all s written)
    · exact .inr (omissible s left)
  show Reads (if depth + 1 ≤ 1 then _ else do
    advance
    let draft ← m.readArray depth 0 m.members m.empty
    let a ← m.close draft
    endSequence
    return a) _ _ _
  rw [if_neg (by omega), h.empty]
  refine (reads_advance _ _).bind ?_
  refine reads.bind ?_
  refine (h.reads_close complete _).bind ?_
  have bracket : Reads endSequence (behind ++ ']' :: rest) () rest :=
    (reads_peek_behind after rfl).bind (reads_advance _ _)
  exact bracket.bind (reads_pure a rest)

/-- **Records.** Every text that spells what is said of the members is read as the record. -/
theorem takes (h : m.Fills depth slots draft a) (deep : 1 ≤ depth)
    (spelled : SpellsRecord slots text) : Takes (m.read (depth + 1)) text a := by
  cases spelled with
  | object listed said others => exact h.takes_object deep listed said others
  | array whole listed omissible => exact h.takes_array deep whole listed omissible

end Members.Fills

end Recordwright.Json
