import Mathlib.Data.List.Defs
import VehicleRecorder.Dataflash.RecordNum
import VehicleRecorder.Protocol.FrameDependence

/-!
# The phone book

A message `0x8401` of type 2 puts an entry into the book, one of type 1 or 3
takes the place of the entry with its name.  The handler looks for a name that
begins with the received one, and writes over the first such entry.  For type 2
it reads the entry from flash where it should write it, so that nothing ever gets
into an empty book.
-/

namespace VehicleRecorder.Protocol

open Bytes Dataflash AppState

/-! ## Entries in flash -/

namespace AppState

/-- The entry that `PhoneBook_Init` writes eight times, for both its arguments. -/
def phoneBookEntry (intype : UInt8) : List UInt8 :=
  if intype = 0 then
    phoneBookBytes ⟨2, 5, 8, 1⟩
      ([0x31, 0x30, 0x30, 0x38, 0x36] ++ List.replicate 15 0)
      ([0xD6, 0xD0, 0xB9, 0xFA, 0xD2, 0xC6, 0xB6, 0xAF] ++ [0, 0])
  else
    phoneBookBytes ⟨2, 0, 0, 0⟩ (List.replicate 20 0) (List.replicate 10 0)

/-- `PhoneBook_Init` with 0 or 1. -/
def phoneBookInit (intype : UInt8) (s : AppState) : AppState :=
  (List.range 8).foldl
    (fun s i => s.recordNumWrite .phonebook (i + 1) (phoneBookEntry intype)) s

end AppState

/-- The bytes of entry `n`. -/
def entryBytes (d : Device) (n : ℕ) : List UInt8 :=
  apiRecordNumRead d .phonebook n 34

/-- The entry is empty as `PhoneBook_Init` leaves it, or in erased flash. -/
def Vacant (xs : List UInt8) : Prop :=
  xs = phoneBookEntry 1 ∨ xs = List.replicate 34 0xFF

/-- The eight entries are empty. -/
def EmptyBook (d : Device) : Prop :=
  ∀ n, 1 ≤ n → n ≤ 8 → Vacant (entryBytes d n)

/-! ## The book as a map -/

/-- What an entry says of a name. -/
structure Contact where
  callType : UInt8
  number : List UInt8
  user : List UInt8
  deriving DecidableEq, Repr

/-- The entry of a record with `Effective_Flag`. -/
def contactOf (xs : List UInt8) : Option Contact :=
  if xs.getD 3 0 = 1 then
    some
      { callType := xs.getD 0 0
        number := (xs.drop 4).take (xs.getD 1 0).toNat
        user := (xs.drop 24).take (xs.getD 2 0).toNat }
  else none

/-- The book under the numbers of its entries. -/
abbrev Book := ℕ → Option Contact

/-- The book in flash. -/
def readBook (d : Device) : Book := fun n => contactOf (entryBytes d n)

/-- A message `0x8401` of type 1, 2 or 3 in the receive buffer.  No character of
a name is 0 or 0xFF. -/
structure BookMessage where
  rx : ℕ → UInt8
  type_mem : rx 13 = 1 ∨ rx 13 = 2 ∨ rx 13 = 3
  entry_pos : 1 ≤ (rx 14).toNat
  entry_le : (rx 14).toNat ≤ 8
  number_pos : 1 ≤ (rx 16).toNat
  number_le : (rx 16).toNat ≤ 20
  user_pos : 1 ≤ (rx (17 + (rx 16).toNat)).toNat
  user_le : (rx (17 + (rx 16).toNat)).toNat ≤ 10
  user_char : ∀ i < (rx (17 + (rx 16).toNat)).toNat,
    rx (18 + (rx 16).toNat + i) ≠ 0 ∧ rx (18 + (rx 16).toNat + i) ≠ 0xFF

namespace BookMessage

/-- The type of the message. -/
def type (m : BookMessage) : UInt8 := m.rx 13

/-- The number of the entry. -/
def entry (m : BookMessage) : ℕ := (m.rx 14).toNat

/-- The length of the number. -/
def numLen (m : BookMessage) : ℕ := (m.rx 16).toNat

/-- The length of the name. -/
def userLen (m : BookMessage) : ℕ := (m.rx (17 + m.numLen)).toNat

/-- What the message says of the name. -/
def contact (m : BookMessage) : Contact where
  callType := m.rx 15
  number := readBytes m.rx 17 m.numLen
  user := readBytes m.rx (18 + m.numLen) m.userLen

end BookMessage

/-- What a message is to do to the book. -/
def Book.receive (b : Book) (m : BookMessage) : Book :=
  if m.type = 2 then Function.update b m.entry (some m.contact)
  else
    match (List.range' 1 8).find? fun n =>
        (b n).any fun c => c.user = m.contact.user with
    | none => b
    | some n => Function.update b n (some m.contact)

/-- The eight entries in flash are those of the map that the messages make. -/
def IsMap (s : AppState) (ms : List BookMessage) : Prop :=
  ∀ n, 1 ≤ n → n ≤ 8 →
    readBook (ms.foldl (fun s m => s.case8401 m.rx) s).device n =
      ms.foldl Book.receive (fun _ => none) n

/-! ## The search for a name -/

/-- The entry has a name that begins with the received one. -/
def NameMatches (s : AppState) (n : ℕ) : Prop :=
  ∀ j < s.records.rxPhoneBook.userLen.toNat,
    (entryBytes s.device n)[24 + j]? = some (s.mem .userStr j)

instance (s : AppState) (n : ℕ) : Decidable (NameMatches s n) :=
  inferInstanceAs (Decidable (∀ j < _, _))

section Search

variable {s : AppState}

theorem entryBytes_length (d : Device) (n : ℕ) : (entryBytes d n).length = 34 := by
  rw [entryBytes, apiRecordNumRead, dfReadFlash, List.length_map,
    List.length_range]

/-- The name of an entry read from flash. -/
theorem readPhoneBook_user (n : ℕ) {j : ℕ} (hj : j < 10) :
    (entryBytes s.device n)[24 + j]? =
      some ((s.readPhoneBook n).mem .bookUserStr j) := by
  have hlen := entryBytes_length s.device n
  rw [readPhoneBook]
  simp only [store, Function.update_self]
  change _ = some (((((entryBytes s.device n).drop 24).take 10)[j]?).getD _)
  rw [List.getElem?_take_of_lt hj, List.getElem?_drop,
    List.getElem?_eq_getElem (by omega), Option.getD_some]

/-- `PhoneBook` cleared for the next entry. -/
def clearPhoneBook (s : AppState) : AppState :=
  let s := { s with
    records.phoneBook.callType := 2
    records.phoneBook.numLen := 0 }
  let s := s.memset .bookNumberStr 20
  let s := { s with records.phoneBook.userLen := 0 }
  s.memset .bookUserStr 10

theorem replacePhoneBook_succ (n i : ℕ) (s : AppState) :
    replacePhoneBook (n + 1) i s =
      let t := (clearPhoneBook s).readPhoneBook (i + 1)
      if strncmpEq (t.mem .bookUserStr) (t.mem .userStr) 0
          t.records.rxPhoneBook.userLen.toNat then
        t.recordNumWrite .phonebook (i + 1)
          (phoneBookBytes t.records.rxPhoneBook (t.bytes .numberStr)
            (t.bytes .userStr))
      else replacePhoneBook n (i + 1) t :=
  rfl

/-- The search writes over the first entry whose name begins with the received
one. -/
theorem replacePhoneBook_device (n i : ℕ) (s : AppState)
    (hlen : s.records.rxPhoneBook.userLen.toNat ≤ 10)
    (hchar : ∀ j < s.records.rxPhoneBook.userLen.toNat, s.mem .userStr j ≠ 0) :
    (replacePhoneBook n i s).device =
      match (List.range' (i + 1) n).find? fun k => NameMatches s k with
      | none => s.device
      | some k =>
          apiRecordNumWrite s.device .phonebook k
            (phoneBookBytes s.records.rxPhoneBook (s.bytes .numberStr)
              (s.bytes .userStr)) := by
  induction n generalizing i s with
  | zero => rfl
  | succ n ih =>
      set t := (clearPhoneBook s).readPhoneBook (i + 1) with ht
      have hbook : t.records.rxPhoneBook = s.records.rxPhoneBook := rfl
      have huser : t.mem .userStr = s.mem .userStr := rfl
      have hmatches : strncmpEq (t.mem .bookUserStr) (t.mem .userStr) 0
          t.records.rxPhoneBook.userLen.toNat = true ↔ NameMatches s (i + 1) := by
        rw [huser, hbook, strncmpEq_iff]
        · refine forall₂_congr fun j hj => ?_
          have hread := readPhoneBook_user (s := clearPhoneBook s) (i + 1)
            (hj.trans_le hlen)
          rw [Nat.zero_add,
            show (clearPhoneBook s).device = s.device from rfl] at *
          rw [hread, Option.some_inj]
        · intro j hj
          rw [Nat.zero_add]
          exact hchar j hj
      have hrest := ih (i + 1) t (hbook ▸ hlen) (by rw [hbook, huser]; exact hchar)
      rw [replacePhoneBook_succ, ← ht, List.range'_succ]
      dsimp only
      by_cases hmatch : NameMatches s (i + 1)
      · rw [if_pos (hmatches.mpr hmatch), List.find?_cons_of_pos (by simpa)]
        rfl
      · rw [if_neg (mt hmatches.mp hmatch), List.find?_cons_of_neg (by simpa),
          hrest]
        rfl

end Search

/-! ## An empty book -/

section Empty

variable {s : AppState}

theorem Vacant.user {xs : List UInt8} (h : Vacant xs) :
    xs[24]? = some 0 ∨ xs[24]? = some 0xFF := by
  rcases h with rfl | rfl
  · exact .inl rfl
  · exact .inr rfl

theorem Vacant.contactOf_eq {xs : List UInt8} (h : Vacant xs) :
    contactOf xs = none := by
  rcases h with rfl | rfl
  · rfl
  · rfl

theorem readBook_of_empty (h : EmptyBook s.device) {n : ℕ} (hn : 1 ≤ n)
    (hn' : n ≤ 8) : readBook s.device n = none :=
  (h n hn hn').contactOf_eq

/-- A message of type 2 reads the flash and writes nothing. -/
theorem case8401_append (m : BookMessage) (htype : m.type = 2) :
    (s.case8401 m.rx).device = s.device := by
  have htype : m.rx 13 = 2 := htype
  rw [case8401, htype]
  rfl

theorem case8401_replace (m : BookMessage) (htype : m.type ≠ 2) :
    s.case8401 m.rx = (replacePhoneBook 8 0 (s.receivePhoneBook m.rx id)).ack := by
  rcases m.type_mem with h | h | h
  · rw [case8401, h]
    rfl
  · exact absurd h htype
  · rw [case8401, h]
    rfl

/-- No entry of an empty book has the name of a message. -/
theorem not_nameMatches_of_empty (h : EmptyBook s.device) (m : BookMessage)
    {n : ℕ} (hn : 1 ≤ n) (hn' : n ≤ 8) :
    ¬ NameMatches (s.receivePhoneBook m.rx id) n := by
  intro hmatch
  have hpos := m.user_pos
  obtain ⟨hzero, herased⟩ := m.user_char 0 hpos
  have hfirst := hmatch 0 hpos
  rw [receivePhoneBook_userStr s m.rx id hpos] at hfirst
  have huser := (h n hn hn').user
  rw [← show entryBytes (s.receivePhoneBook m.rx id).device n =
    entryBytes s.device n from rfl, show 24 = 24 + 0 from rfl, hfirst,
    Option.some_inj, Option.some_inj] at huser
  exact huser.elim hzero herased

/-- No message gets anything into an empty book. -/
theorem case8401_device_of_empty (h : EmptyBook s.device) (m : BookMessage) :
    (s.case8401 m.rx).device = s.device := by
  by_cases htype : m.type = 2
  · exact case8401_append m htype
  · rw [case8401_replace m htype]
    change (replacePhoneBook 8 0 (s.receivePhoneBook m.rx id)).device = _
    have hchar : ∀ j <
        (s.receivePhoneBook m.rx id).records.rxPhoneBook.userLen.toNat,
        (s.receivePhoneBook m.rx id).mem .userStr j ≠ 0 := by
      intro j hj
      rw [receivePhoneBook_userStr s m.rx id hj]
      exact (m.user_char j hj).1
    rw [replacePhoneBook_device 8 0 _ m.user_le hchar]
    have hnone : (List.range' (0 + 1) 8).find?
        (fun k => NameMatches (s.receivePhoneBook m.rx id) k) = none := by
      refine List.find?_eq_none.mpr fun k hk => ?_
      obtain ⟨hk, hk'⟩ := List.mem_range'_1.mp hk
      rw [decide_eq_true_iff]
      exact not_nameMatches_of_empty h m hk (by omega)
    rw [hnone]
    rfl

theorem run_device_of_empty (h : EmptyBook s.device) (ms : List BookMessage) :
    (ms.foldl (fun s m => s.case8401 m.rx) s).device = s.device := by
  induction ms generalizing s with
  | nil => rfl
  | cons m ms ih =>
      have hdevice := case8401_device_of_empty h m
      exact (ih (hdevice ▸ h)).trans hdevice

end Empty

/-! ## Messages to the map -/

theorem receive_none {m : BookMessage} (htype : m.type ≠ 2) :
    Book.receive (fun _ => none) m = fun _ => none := by
  rw [Book.receive, if_neg htype]
  rfl

theorem receive_isSome {b : Book} {n : ℕ} (h : (b n).isSome) (m : BookMessage) :
    (b.receive m n).isSome := by
  have hupdate (k : ℕ) : (Function.update b k (some m.contact) n).isSome := by
    by_cases hk : n = k
    · rw [hk, Function.update_self]
      rfl
    · rw [Function.update_of_ne hk]
      exact h
  unfold Book.receive
  split
  · exact hupdate m.entry
  · generalize (List.range' 1 8).find? _ = found
    cases found with
    | none => exact h
    | some k => exact hupdate k

theorem run_isSome {b : Book} {n : ℕ} (h : (b n).isSome)
    (ms : List BookMessage) : (ms.foldl Book.receive b n).isSome := by
  induction ms generalizing b with
  | nil => exact h
  | cons m ms ih => exact ih (receive_isSome h m)

/-- An entry that a message puts into the map stays. -/
theorem run_append_isSome {ms : List BookMessage} {m : BookMessage} (hm : m ∈ ms)
    (htype : m.type = 2) (b : Book) :
    (ms.foldl Book.receive b m.entry).isSome := by
  induction ms generalizing b with
  | nil => exact absurd hm List.not_mem_nil
  | cons m' ms ih =>
      rcases List.mem_cons.mp hm with rfl | hm
      · refine run_isSome ?_ ms
        rw [Book.receive, if_pos htype, Function.update_self]
        rfl
      · exact ih hm (b.receive m')

theorem run_none {ms : List BookMessage} (h : ∀ m ∈ ms, m.type ≠ 2) :
    ms.foldl Book.receive (fun _ => none) = fun _ => none := by
  induction ms with
  | nil => rfl
  | cons m ms ih =>
      rw [List.forall_mem_cons] at h
      rw [List.foldl_cons, receive_none h.1]
      exact ih h.2

/-- From an empty book on, the book is the map of the messages exactly when none
of them is of type 2. -/
theorem isMap_iff (s : AppState) (ms : List BookMessage)
    (hempty : EmptyBook s.device) :
    IsMap s ms ↔ ∀ m ∈ ms, m.type ≠ 2 := by
  have hread : ∀ n, 1 ≤ n → n ≤ 8 →
      readBook (ms.foldl (fun s m => s.case8401 m.rx) s).device n = none := by
    intro n hn hn'
    rw [run_device_of_empty hempty ms]
    exact readBook_of_empty hempty hn hn'
  constructor
  · intro h m hm htype
    have hsome := run_append_isSome hm htype fun _ => none
    rw [← h m.entry m.entry_pos m.entry_le,
      hread m.entry m.entry_pos m.entry_le] at hsome
    exact absurd hsome (by decide)
  · intro h n hn hn'
    rw [hread n hn hn', run_none h]

/-! ## The book at the start -/

theorem phoneBookInit_entries (k : ℕ) (hk : k ≤ 8) (s : AppState) :
    ∀ n, 1 ≤ n → n ≤ k →
      entryBytes ((List.range k).foldl (fun s i => s.recordNumWrite .phonebook
        (i + 1) (phoneBookEntry 1)) s).device n = phoneBookEntry 1 := by
  induction k with
  | zero => intro n hn hn'; omega
  | succ k ih =>
      intro n hn hn'
      rw [List.range_succ, List.foldl_append]
      simp only [List.foldl_cons, List.foldl_nil, recordNumWrite]
      have hpage (j : ℕ) (hj : j ≤ 8) :
          RecordName.phonebook.writePage + j < 8192 := by
        rw [show RecordName.phonebook.writePage = 1440 from rfl]
        omega
      by_cases hlast : n = k + 1
      · rw [hlast]
        exact apiRecordNumRead_write _ (hpage (k + 1) hk) (by decide)
      · rw [entryBytes, apiRecordNumRead_write_of_ne _ (hpage (k + 1) hk)
          (by decide) (hpage n (by omega)) (by decide) (by omega)]
        exact ih (by omega) n hn (by omega)

/-- `PhoneBook_Init(1)` empties the book. -/
theorem emptyBook_phoneBookInit (s : AppState) :
    EmptyBook (phoneBookInit 1 s).device :=
  fun n hn hn' => .inl (phoneBookInit_entries 8 le_rfl s n hn hn')

/-- A receive buffer with a message for entry 1, the number "1" and the name
"A". -/
def sampleBuffer (type : UInt8) (i : ℕ) : UInt8 :=
  if i = 13 then type else if i = 17 then 0x31 else if i = 19 then 0x41 else 1

/-- The message of type 2. -/
def sampleAppend : BookMessage where
  rx := sampleBuffer 2
  type_mem := by decide
  entry_pos := by decide
  entry_le := by decide
  number_pos := by decide
  number_le := by decide
  user_pos := by decide
  user_le := by decide
  user_char := by decide

/-- The message of type 3. -/
def sampleChange : BookMessage where
  rx := sampleBuffer 3
  type_mem := by decide
  entry_pos := by decide
  entry_le := by decide
  number_pos := by decide
  number_le := by decide
  user_pos := by decide
  user_le := by decide
  user_char := by decide

/-- A change of a name that is not in the book. -/
theorem isMap_change :
    IsMap (phoneBookInit 1 {}) [sampleChange] :=
  (isMap_iff _ _ (emptyBook_phoneBookInit {})).mpr
    (List.forall_mem_singleton.mpr (by decide))

/-- An entry put into the empty book is not there. -/
theorem append_not_isMap :
    ¬ IsMap (phoneBookInit 1 {}) [sampleAppend] := by
  intro h
  have hfirst := h 1 le_rfl (by decide)
  have hempty := emptyBook_phoneBookInit {}
  rw [run_device_of_empty hempty,
    readBook_of_empty hempty le_rfl (by decide)] at hfirst
  exact absurd hfirst (by decide)

end VehicleRecorder.Protocol
