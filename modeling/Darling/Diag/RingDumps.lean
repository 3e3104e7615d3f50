import Mathlib.Data.List.Nodup
import Darling.Diag.Selection

/-! `parse_ring_dump`: the dumps of event rings in a log, and the account of their record lines. -/
namespace Darling.Diag

section Texts

/-- `split_whitespace`. -/
def splitWhitespace (text : Text) : List Text := (text.splitOnP isWhitespace).filter (· ≠ [])

def hexDigit (c : Char) : Option Nat :=
  if '0' ≤ c ∧ c ≤ '9' then some (c.toNat - '0'.toNat)
  else if 'a' ≤ c ∧ c ≤ 'f' then some (c.toNat - 'a'.toNat + 10)
  else if 'A' ≤ c ∧ c ≤ 'F' then some (c.toNat - 'A'.toNat + 10)
  else none

/-- `u64::from_str_radix` for the radix 16. -/
def fromHex (text : Text) : Option Nat :=
  let digits := if text.head? = some '+' then text.tail else text
  match digits.mapM hexDigit with
  | none => none
  | some values =>
    let value := values.foldl (fun value digit => 16 * value + digit) 0
    if digits ≠ [] ∧ value < 2 ^ 64 then some value else none

def parseHexOrDec (text : Text) : Option Nat :=
  match valueOf "0x" (trim text) with
  | some rest => fromHex rest
  | none => parseU64 (trim text)

end Texts

structure RingRecord where
  seq : Nat
  tag : Text
  a : Nat
  b : Nat
  c : Nat
  d : Nat
  deriving DecidableEq

structure RingDumpPart where
  events : Option Nat
  shown : Option Nat
  guest : Option Bool
  records : Nat
  torn : Nat
  deriving DecidableEq

/-- The messages of `malformed_records`. -/
inductive MalformedRecord where
  | notKeyValue (field : Text)
  | unknownField (key : Text)
  | incomplete (line : Text)
  deriving DecidableEq

/-- The messages of `malformed_other`. -/
inductive MalformedHeader where
  | notKeyValue (field : Text)
  | unknownField (key : Text)
  deriving DecidableEq

structure RingDump where
  records : List RingRecord := []
  perDump : List RingDumpPart := []
  malformedRecords : List MalformedRecord := []
  malformedOther : List MalformedHeader := []
  deriving DecidableEq

section Headers

structure Header where
  events : Option Nat := none
  shown : Option Nat := none
  guest : Option Bool := none
  malformed : List MalformedHeader := []

def Header.read (header : Header) (f : Text) : Header :=
  match splitOnce '=' f with
  | none => { header with malformed := header.malformed ++ [.notKeyValue f] }
  | some (k, v) =>
    if k = "events".toList then { header with events := parseU64 v }
    else if k = "shown".toList then { header with shown := parseU64 v }
    else if k = "guest".toList then { header with guest := (parseU64 v).map (· != 0) }
    else { header with malformed := header.malformed ++ [.unknownField k] }

end Headers

section Records

/-- The fields of a record. -/
inductive Key where
  | seq
  | tag
  | a
  | b
  | c
  | d
  deriving DecidableEq

def keyOf (k : Text) : Option Key :=
  if k = "seq".toList then some .seq
  else if k = "tag".toList then some .tag
  else if k = "a".toList then some .a
  else if k = "b".toList then some .b
  else if k = "c".toList then some .c
  else if k = "d".toList then some .d
  else none

/-- The values that are read from a record line. -/
structure Slot where
  seq : Option Nat := none
  tag : Option Text := none
  a : Option Nat := none
  b : Option Nat := none
  c : Option Nat := none
  d : Option Nat := none

namespace Slot

def set (slot : Slot) (key : Key) (v : Text) : Slot :=
  match key with
  | .seq => { slot with seq := parseU64 v }
  | .tag => { slot with tag := some v }
  | .a => { slot with a := parseHexOrDec v }
  | .b => { slot with b := parseHexOrDec v }
  | .c => { slot with c := parseHexOrDec v }
  | .d => { slot with d := parseHexOrDec v }

def record (slot : Slot) : Option RingRecord := do
  return ⟨← slot.seq, ← slot.tag, ← slot.a, ← slot.b, ← slot.c, ← slot.d⟩

end Slot

def readField (read : Slot × List MalformedRecord) (f : Text) : Slot × List MalformedRecord :=
  match splitOnce '=' f with
  | none => (read.1, read.2 ++ [.notKeyValue f])
  | some (k, v) =>
    match keyOf k with
    | some key => (read.1.set key v, read.2)
    | none => (read.1, read.2 ++ [.unknownField k])

end Records

section Code

/-- What is read, and the section that is open. -/
structure Reading where
  dump : RingDump := {}
  current : Option Nat := none

/-- A count in the section that is open. -/
def countIn (current : Option Nat) (count : RingDumpPart → RingDumpPart) (parts : List RingDumpPart) :
    List RingDumpPart :=
  match current with
  | some index => parts.modify index count
  | none => parts

def readHeader (reading : Reading) (header : Text) : Reading :=
  let out := reading.dump
  let fields := (splitWhitespace header).foldl Header.read {}
  { current := some out.perDump.length
    dump := { out with
      malformedOther := out.malformedOther ++ fields.malformed
      perDump := out.perDump ++ [⟨fields.events, fields.shown, fields.guest, 0, 0⟩] } }

def readRecord (reading : Reading) (line rest : Text) : Reading :=
  let out := reading.dump
  let (slot, malformed) := (splitWhitespace rest).foldl readField ({}, [])
  match slot.record with
  | none =>
    { reading with
      dump := { out with
        malformedRecords := out.malformedRecords ++ malformed ++ [.incomplete line]
        perDump := countIn reading.current (fun part => { part with torn := part.torn + 1 }) out.perDump } }
  | some record =>
    { reading with
      dump := { out with
        malformedRecords := out.malformedRecords ++ malformed
        records := out.records ++ [record]
        perDump := countIn reading.current (fun part => { part with records := part.records + 1 }) out.perDump } }

def readLine (reading : Reading) (raw : Text) : Reading :=
  let line := trim raw
  match valueOf "dtape.ering " line with
  | none => reading
  | some rest =>
    match valueOf "dump " rest with
    | some header => readHeader reading header
    | none => readRecord reading line rest

def parseRingDump (text : Text) : RingDump := ((lines text).foldl readLine {}).dump

/-- The total of torn records that `run_ring` reports. -/
def tornTotal (dump : RingDump) : Nat := dump.malformedRecords.length

end Code

section Accounts

/-- What a record line says behind the mark of the ring. -/
def recordLine (raw : Text) : Option Text := do
  let rest ← valueOf "dtape.ering " (trim raw)
  if (valueOf "dump " rest).isSome then none else some rest

def isHeader (raw : Text) : Bool := ((valueOf "dtape.ering " (trim raw)).bind (valueOf "dump ")).isSome

/-- The numbers of record lines behind each header. -/
def sectionSizes : List Text → List Nat
  | [] => []
  | raw :: rest =>
    if isHeader raw then ((rest.takeWhile fun later => !isHeader later).filterMap recordLine).length ::
      sectionSizes rest
    else sectionSizes rest

/-- A field whose key is one of those of a record. -/
def fieldOf (f : Text) : Option (Key × Text) := do
  let (k, v) ← splitOnce '=' f
  return (← keyOf k, v)

/-- The line has the six fields, in some order, and nothing else; the numbers are numbers. -/
def Exactly (rest : Text) (record : RingRecord) : Prop :=
  ∃ seq a b c d : Text,
    ((splitWhitespace rest).map fieldOf).Perm
      [some (.seq, seq), some (.tag, record.tag), some (.a, a), some (.b, b), some (.c, c), some (.d, d)] ∧
    parseU64 seq = some record.seq ∧ parseHexOrDec a = some record.a ∧ parseHexOrDec b = some record.b ∧
    parseHexOrDec c = some record.c ∧ parseHexOrDec d = some record.d

/-- Every line is counted once: as the record that it holds exactly, or as torn. -/
inductive Accounted : List Text → List RingRecord → Nat → Prop where
  | nil : Accounted [] [] 0
  | parsed {rest : Text} {record : RingRecord} {lines : List Text} {records : List RingRecord} {torn : Nat} :
      Exactly rest record → Accounted lines records torn → Accounted (rest :: lines) (record :: records) torn
  | torn {rest : Text} {lines : List Text} {records : List RingRecord} {torn : Nat} :
      (∀ record, ¬Exactly rest record) → Accounted lines records torn → Accounted (rest :: lines) records (torn + 1)

/-- The account of a log is exact. -/
structure Account (text : Text) (dump : RingDump) : Prop where
  records : Accounted ((lines text).filterMap recordLine) dump.records (tornTotal dump)
  sections : dump.perDump.map (fun part => part.records + part.torn) = sectionSizes (lines text)

end Accounts

section Fields

/-- The fields of a line that a record has. -/
def entries (rest : Text) : List (Key × Text) := (splitWhitespace rest).filterMap fieldOf

def slotOf (fields : List (Key × Text)) : Slot := fields.foldl (fun slot field => slot.set field.1 field.2) {}

/-- The values of a key, in order. -/
def valuesOf (key : Key) (fields : List (Key × Text)) : List Text := (fields.filter (·.1 = key)).map (·.2)

/-- The record that the last values of the fields make. -/
def parsed (rest : Text) : Option RingRecord := (slotOf (entries rest)).record

/-- The words of a line that are no fields of a record. -/
def strangers (rest : Text) : List Text := (splitWhitespace rest).filter fun f => (fieldOf f).isNone

theorem readField_some {f : Text} {field : Key × Text} (known : fieldOf f = some field)
    (read : Slot × List MalformedRecord) :
    readField read f = (read.1.set field.1 field.2, read.2) := by
  unfold fieldOf at known
  unfold readField
  cases split : splitOnce '=' f with
  | none => simp [split] at known
  | some pair =>
    cases key : keyOf pair.1 with
    | none => simp [split, key] at known
    | some name =>
      simp only [split, key, Option.bind_eq_bind, Option.bind_some, Option.pure_def, Option.some.injEq] at known
      subst known
      simp only [key]

theorem readField_none {f : Text} (strange : fieldOf f = none) (read : Slot × List MalformedRecord) :
    ∃ message, readField read f = (read.1, read.2 ++ [message]) := by
  unfold fieldOf at strange
  unfold readField
  cases split : splitOnce '=' f with
  | none => exact ⟨_, rfl⟩
  | some pair =>
    cases key : keyOf pair.1 with
    | none => exact ⟨.unknownField pair.1, by simp only [key]⟩
    | some name => simp [split, key] at strange

/-- By induction on the words of a line. -/
theorem readFields (words : List Text) (read : Slot × List MalformedRecord) :
    (words.foldl readField read).1 = (words.filterMap fieldOf).foldl (fun slot field =>
      slot.set field.1 field.2) read.1 ∧
      (words.foldl readField read).2.length = read.2.length + (words.filter fun f => (fieldOf f).isNone).length := by
  induction words generalizing read with
  | nil => exact ⟨rfl, rfl⟩
  | cons f words ih =>
    rw [List.foldl_cons]
    cases known : fieldOf f with
    | some field =>
      rw [readField_some known, List.filterMap_cons_some known, List.foldl_cons,
        List.filter_cons_of_neg (by simp [known])]
      exact ih _
    | none =>
      obtain ⟨message, step⟩ := readField_none known read
      rw [step, List.filterMap_cons_none known, List.filter_cons_of_pos (by simp [known])]
      obtain ⟨slot, count⟩ := ih (read.1, read.2 ++ [message])
      refine ⟨slot, ?_⟩
      rw [count, List.length_append, List.length_singleton, List.length_cons]
      omega

/-- Each value of the slot is read from the last of its key. -/
theorem slotOf_eq (fields : List (Key × Text)) : slotOf fields =
    { seq := (valuesOf .seq fields).getLast?.bind parseU64
      tag := (valuesOf .tag fields).getLast?
      a := (valuesOf .a fields).getLast?.bind parseHexOrDec
      b := (valuesOf .b fields).getLast?.bind parseHexOrDec
      c := (valuesOf .c fields).getLast?.bind parseHexOrDec
      d := (valuesOf .d fields).getLast?.bind parseHexOrDec } := by
  induction fields using List.reverseRecOn with
  | nil => rfl
  | append_singleton fields field ih =>
    have last : slotOf (fields ++ [field]) = (slotOf fields).set field.1 field.2 := by
      simp only [slotOf, List.foldl_append, List.foldl_cons, List.foldl_nil]
    rw [last, ih]
    obtain ⟨key, v⟩ := field
    cases key <;> simp [Slot.set, valuesOf]

theorem valuesOf_perm {fields others : List (Key × Text)} (same : fields.Perm others) (key : Key) :
    (valuesOf key fields).Perm (valuesOf key others) := (same.filter _).map _

theorem mem_valuesOf {key : Key} {v : Text} {fields : List (Key × Text)} : v ∈ valuesOf key fields ↔
    (key, v) ∈ fields := by
  simp [valuesOf]

theorem distinct_keys : [Key.seq, .tag, .a, .b, .c, .d].Nodup := by decide

theorem Exactly.entries {rest : Text} {record : RingRecord} (exact_ : Exactly rest record) :
    parsed rest = some record ∧ strangers rest = [] ∧ ((entries rest).map (·.1)).Nodup := by
  obtain ⟨seq, a, b, c, d, same, seqs, as, bs, cs, ds⟩ := exact_
  have fields : (Diag.entries rest).Perm [(.seq, seq), (.tag, record.tag), (.a, a), (.b, b), (.c, c), (.d, d)] := by
    have := same.filterMap id
    rwa [List.filterMap_map] at this
  refine ⟨?_, ?_, ?_⟩
  · have value (key : Key) {v : Text}
        (only : valuesOf key [(.seq, seq), (.tag, record.tag), (.a, a), (.b, b), (.c, c), (.d, d)] = [v]) :
        valuesOf key (Diag.entries rest) = [v] := by
      have := valuesOf_perm fields key
      rw [only] at this
      exact List.perm_singleton.mp this
    rw [parsed, slotOf_eq, value .seq rfl, value .tag rfl, value .a rfl, value .b rfl, value .c rfl, value .d rfl]
    simp [Slot.record, seqs, as, bs, cs, ds]
  · rw [strangers, List.filter_eq_nil_iff]
    intro f listed
    have := same.subset (List.mem_map_of_mem listed)
    simp only [List.mem_cons, List.not_mem_nil, or_false] at this
    rcases this with known | known | known | known | known | known <;> simp [known]
  · rw [(fields.map _).nodup_iff]
    exact distinct_keys

theorem record_eq_some {slot : Slot} {record : RingRecord} : slot.record = some record ↔
    slot = ⟨some record.seq, some record.tag, some record.a, some record.b, some record.c, some record.d⟩ := by
  obtain ⟨seq, tag, a, b, c, d⟩ := slot
  obtain ⟨seq', tag', a', b', c', d'⟩ := record
  simp only [Slot.record, Option.bind_eq_bind, Option.pure_def, Option.bind_eq_some_iff, Option.some.injEq,
    RingRecord.mk.injEq, Slot.mk.injEq]
  constructor
  · rintro ⟨_, rfl, _, rfl, _, rfl, _, rfl, _, rfl, _, rfl, rfl, rfl, rfl, rfl, rfl, rfl⟩
    simp
  · rintro ⟨rfl, rfl, rfl, rfl, rfl, rfl⟩
    simp

/-- Without strangers and repeated keys, a line that makes a record holds exactly that record. -/
theorem exactly_of_parsed {rest : Text} {record : RingRecord} (found : parsed rest = some record)
    (known : strangers rest = [])
    (distinct : ((entries rest).map (·.1)).Nodup) : Exactly rest record := by
  rw [parsed, record_eq_some, slotOf_eq] at found
  simp only [Slot.mk.injEq, Option.bind_eq_some_iff] at found
  obtain ⟨⟨seq, seqs, seqNumber⟩, tags, ⟨a, as, aNumber⟩, ⟨b, bs, bNumber⟩, ⟨c, cs, cNumber⟩, ⟨d, ds, dNumber⟩⟩ := found
  refine ⟨seq, a, b, c, d, ?_, seqNumber, aNumber, bNumber, cNumber, dNumber⟩
  have all : (splitWhitespace rest).map fieldOf = (entries rest).map some := by
    rw [entries, List.map_filterMap_some_eq_filter_map_isSome, List.filter_eq_self.mpr]
    rw [strangers, List.filter_eq_nil_iff] at known
    intro field listed
    obtain ⟨f, word, rfl⟩ := List.mem_map.mp listed
    exact Option.isSome_iff_ne_none.mpr fun none => known f word (none ▸ rfl)
  have value (key : Key) {x v : Text} (last : (valuesOf key (entries rest)).getLast? = some x) :
      (key, v) ∈ entries rest ↔ v = x := by
    have named : (key, x) ∈ entries rest := mem_valuesOf.mp (List.mem_of_getLast? last)
    refine ⟨fun other => ?_, fun same => same ▸ named⟩
    exact congrArg Prod.snd (List.inj_on_of_nodup_map distinct other named rfl)
  have keys : ([(.seq, seq), (.tag, record.tag), (.a, a), (.b, b), (.c, c), (.d, d)].map (Prod.fst : Key × Text →
      Key)).Nodup := distinct_keys
  rw [all]
  refine List.Perm.map some ((List.perm_ext_iff_of_nodup (List.Nodup.of_map _ distinct) (List.Nodup.of_map _ keys)).mpr
    fun ⟨key, v⟩ => ?_)
  cases key with
  | seq => simp [value .seq seqs]
  | tag => simp [value .tag tags]
  | a => simp [value .a as]
  | b => simp [value .b bs]
  | c => simp [value .c cs]
  | d => simp [value .d ds]

end Fields

section Reading

def RingDumpPart.size (part : RingDumpPart) : Nat := part.records + part.torn

/-- What a record line adds to the torn total. -/
def tornBy (rest : Text) : Nat := (strangers rest).length + if (parsed rest).isSome then 0 else 1

/-- One round of the loop. -/
inductive Round (reading : Reading) (raw : Text) : Prop where
  | other (unmarked : recordLine raw = none) (plain : isHeader raw = false) (same : readLine reading raw = reading)
  | header (part : RingDumpPart) (others : List MalformedHeader) (unmarked : recordLine raw = none)
      (header : isHeader raw = true)
      (empty : part.size = 0) (opened : readLine reading raw =
        { current := some reading.dump.perDump.length
          dump := { reading.dump with malformedOther := others, perDump := reading.dump.perDump ++ [part] } })
  | record (rest : Text) (malformed : List MalformedRecord) (count : RingDumpPart → RingDumpPart)
      (marked : recordLine raw = some rest)
      (plain : isHeader raw = false) (torn : malformed.length = tornBy rest) (once : ∀ part, (count part).size =
        part.size + 1)
      (read : readLine reading raw = { reading with
        dump := { reading.dump with
          malformedRecords := reading.dump.malformedRecords ++ malformed
          records := reading.dump.records ++ (parsed rest).toList
          perDump := countIn reading.current count reading.dump.perDump } })

theorem readLine_round (reading : Reading) (raw : Text) : Round reading raw := by
  cases mark : valueOf "dtape.ering " (trim raw) with
  | none => exact .other (by simp [recordLine, mark]) (by simp [isHeader, mark]) (by simp only [readLine, mark])
  | some rest =>
    cases header : valueOf "dump " rest with
    | some fields =>
      refine .header _ _ (by simp [recordLine, mark, header]) (by simp [isHeader, mark, header]) ?_
        (by simp only [readLine, mark, header]; rfl)
      rfl
    | none =>
      have marked : recordLine raw = some rest := by simp [recordLine, mark, header]
      have plain : isHeader raw = false := by simp [isHeader, mark, header]
      obtain ⟨slot, count⟩ := readFields (splitWhitespace rest) ({}, [])
      have record : ((splitWhitespace rest).foldl readField ({}, [])).1.record = parsed rest := by
        rw [slot]
        rfl
      rw [List.length_nil, Nat.zero_add] at count
      have step : readLine reading raw = readRecord reading (trim raw) rest := by simp only [readLine, mark, header]
      cases made : parsed rest with
      | none =>
        refine .record rest (_ ++ [.incomplete (trim raw)]) (fun part =>
          { part with torn := part.torn + 1 }) marked plain ?_
          (fun part => by simp only [RingDumpPart.size]; omega)
            (by rw [step]; simp only [readRecord, record, made, List.append_assoc]; simp; rfl)
        simp [count, tornBy, made, strangers]
      | some found =>
        refine .record rest _ (fun part => { part with records := part.records + 1 }) marked plain ?_
          (fun part => by simp only [RingDumpPart.size]; omega)
            (by rw [step]; simp only [readRecord, record, made]; rfl)
        simp [count, tornBy, made, strangers]

/-- What the lines add to the records and to the torn total. -/
theorem readLines_records (raws : List Text) (reading : Reading) :
    (raws.foldl readLine reading).dump.records = reading.dump.records ++ (raws.filterMap recordLine).filterMap parsed ∧
      tornTotal (raws.foldl readLine reading).dump =
        tornTotal reading.dump + ((raws.filterMap recordLine).map tornBy).sum := by
  induction raws generalizing reading with
  | nil => simp
  | cons raw raws ih =>
    rw [List.foldl_cons, (ih _).1, (ih _).2]
    cases readLine_round reading raw with
    | other unmarked _ same => rw [same, List.filterMap_cons_none unmarked]; exact ⟨rfl, rfl⟩
    | header part others unmarked _ _ opened => rw [opened, List.filterMap_cons_none unmarked]; exact ⟨rfl, rfl⟩
    | record rest malformed count marked _ torn _ read =>
      rw [read, List.filterMap_cons_some marked, List.map_cons, List.sum_cons, ← torn]
      simp only [tornTotal, List.length_append, Nat.add_assoc, and_true]
      cases made : parsed rest with
      | none => simp [made]
      | some record => simp [made]

/-- The section that is open is the last one. -/
def Reading.Open (reading : Reading) (before : List RingDumpPart) (last : RingDumpPart) : Prop :=
  reading.dump.perDump = before ++ [last] ∧ reading.current = some before.length

theorem modify_last {α : Type} (before : List α) (last : α) (change : α → α) :
    (before ++ [last]).modify before.length change = before ++ [change last] := by
  induction before with
  | nil => rfl
  | cons item before ih => simp [ih]

/-- The lines before the next header are counted in the section that is open, the others in their own. -/
theorem readLines_open (raws : List Text) {reading : Reading} {before : List RingDumpPart} {last : RingDumpPart}
    (opened : reading.Open before last) : (raws.foldl readLine reading).dump.perDump.map RingDumpPart.size =
      before.map RingDumpPart.size ++
        (last.size + ((raws.takeWhile fun later => !isHeader later).filterMap recordLine).length) ::
          sectionSizes raws := by
  induction raws generalizing reading before last with
  | nil => simp [opened.1, sectionSizes]
  | cons raw raws ih =>
    rw [List.foldl_cons, sectionSizes]
    cases readLine_round reading raw with
    | other unmarked plain same =>
      rw [same, ih opened, List.takeWhile_cons_of_pos (by simp [plain]), List.filterMap_cons_none unmarked,
        if_neg (by simp [plain])]
    | header part others unmarked header empty step =>
      rw [step, ih ⟨rfl, rfl⟩, List.takeWhile_cons_of_neg (by simp [header]), if_pos header, opened.1, empty]
      simp
    | record rest malformed count marked plain torn once read =>
      have next : (readLine reading raw).Open before (count last) := by
        rw [read]
        refine ⟨?_, opened.2⟩
        simp only [opened.1, opened.2, countIn, modify_last]
      rw [ih next, once, List.takeWhile_cons_of_pos (by simp [plain]), List.filterMap_cons_some marked,
        if_neg (by simp [plain]), List.length_cons]
      simp only [Nat.add_assoc, Nat.add_comm 1]

theorem readLines_sections (raws : List Text) {reading : Reading} (empty : reading.dump.perDump = [])
    (closed : reading.current = none) :
    (raws.foldl readLine reading).dump.perDump.map RingDumpPart.size = sectionSizes raws := by
  induction raws generalizing reading with
  | nil => simp [empty, sectionSizes]
  | cons raw raws ih =>
    rw [List.foldl_cons, sectionSizes]
    cases readLine_round reading raw with
    | other unmarked plain same =>
      rw [same, ih empty closed, if_neg (by simp [plain])]
    | header part others unmarked header fresh step =>
      have next : (readLine reading raw).Open [] part := by
        rw [step, empty]
        exact ⟨rfl, rfl⟩
      rw [readLines_open raws next, if_pos header, fresh]
      simp
    | record rest malformed count marked plain torn once read =>
      have empty' : (readLine reading raw).dump.perDump = [] := by
        rw [read]
        simp only [closed, countIn, empty]
      have closed' : (readLine reading raw).current = none := by
        rw [read]
        exact closed
      rw [ih empty' closed', if_neg (by simp [plain])]

end Reading

section Accounting

variable {rests : List Text} {records : List RingRecord} {torn : Nat}

theorem Accounted.once (accounted : Accounted rests records torn) : records.length + torn = rests.length := by
  induction accounted with
  | nil => rfl
  | parsed _ _ ih => simp only [List.length_cons]; omega
  | torn _ _ ih => simp only [List.length_cons]; omega

/-- No more lines hold exactly a record than make one, and if as many do then they are the same. -/
theorem Accounted.parsed_le (accounted : Accounted rests records torn) :
    records.length ≤ (rests.filterMap Diag.parsed).length ∧
      (records.length = (rests.filterMap Diag.parsed).length → ∀ rest ∈ rests, (Diag.parsed rest).isSome →
        ∃ record, Exactly rest record) := by
  induction accounted with
  | nil => simp
  | parsed held _ ih =>
    rw [List.filterMap_cons_some held.entries.1]
    refine ⟨Nat.succ_le_succ ih.1, fun same => List.forall_mem_cons.mpr ⟨fun _ => ⟨_, held⟩, ih.2 (Nat.succ.inj same)⟩⟩
  | @torn rest lines records torn broken _ ih =>
    cases made : Diag.parsed rest with
    | none =>
      rw [List.filterMap_cons_none made]
      exact ⟨ih.1, fun same => List.forall_mem_cons.mpr ⟨fun found => by simp [made] at found, ih.2 same⟩⟩
    | some record =>
      rw [List.filterMap_cons_some made, List.length_cons]
      have := ih.1
      exact ⟨by omega, fun same => by omega⟩

/-- The line has no words but the fields of a record, and if one is repeated then the last values make no record. -/
structure Regular (rest : Text) : Prop where
  known : ∀ f ∈ splitWhitespace rest, ∃ field, fieldOf f = some field
  distinct : (parsed rest).isSome → ((entries rest).map (·.1)).Nodup

theorem strangers_eq_nil {rest : Text} : strangers rest = [] ↔ ∀ f ∈ splitWhitespace rest, ∃ field,
    fieldOf f = some field := by
  rw [strangers, List.filter_eq_nil_iff]
  refine forall₂_congr fun f _ => ?_
  cases fieldOf f <;> simp

theorem tornBy_length (rests : List Text) : (rests.filterMap parsed).length + (rests.map tornBy).sum =
    rests.length + (rests.map fun rest => (strangers rest).length).sum := by
  induction rests with
  | nil => rfl
  | cons rest rests ih =>
    simp only [List.map_cons, List.sum_cons, List.length_cons, tornBy]
    cases made : parsed rest with
    | none => rw [List.filterMap_cons_none made]; simp; omega
    | some record => rw [List.filterMap_cons_some made, List.length_cons]; simp; omega

theorem accounted_iff (rests : List Text) :
    Accounted rests (rests.filterMap parsed) (rests.map tornBy).sum ↔ ∀ rest ∈ rests, Regular rest := by
  constructor
  · intro accounted rest listed
    have known : ∀ rest ∈ rests, strangers rest = [] := by
      have once := accounted.once
      rw [tornBy_length] at once
      have none : (rests.map fun rest => (strangers rest).length).sum = 0 := by omega
      intro rest listed
      exact List.length_eq_zero_iff.mp (List.sum_eq_zero_iff_forall_eq_nat.mp none _ (List.mem_map_of_mem listed))
    refine ⟨strangers_eq_nil.mp (known rest listed), fun made => ?_⟩
    obtain ⟨record, held⟩ := accounted.parsed_le.2 rfl rest listed made
    exact held.entries.2.2
  · intro regular
    induction rests with
    | nil => exact .nil
    | cons rest rests ih =>
      obtain ⟨⟨known, distinct⟩, later⟩ := List.forall_mem_cons.mp regular
      have none := strangers_eq_nil.mpr known
      cases made : parsed rest with
      | none =>
        have one : tornBy rest = 1 := by simp [tornBy, none, made]
        rw [List.filterMap_cons_none made, List.map_cons, List.sum_cons, one, Nat.add_comm]
        refine .torn (fun record held => ?_) (ih later)
        rw [held.entries.1] at made
        cases made
      | some record =>
        have zero : tornBy rest = 0 := by simp [tornBy, none, made]
        rw [List.filterMap_cons_some made, List.map_cons, List.sum_cons, zero, Nat.zero_add]
        exact .parsed (exactly_of_parsed made none (distinct (by simp [made]))) (ih later)

/-- A word that is no field is counted as a torn record of its own, and a repeated field is not noticed: the account
of a log is exact when its record lines have neither. -/
theorem parseRingDump_account (text : Text) :
    Account text (parseRingDump text) ↔ ∀ rest ∈ (lines text).filterMap recordLine, Regular rest := by
  obtain ⟨records, torn⟩ := readLines_records (lines text) {}
  have sections := @readLines_sections (lines text) {} rfl rfl
  have total : tornTotal (parseRingDump text) = (((lines text).filterMap recordLine).map tornBy).sum :=
    torn.trans (Nat.zero_add _)
  have all : (parseRingDump text).records = ((lines text).filterMap recordLine).filterMap parsed :=
    records.trans (List.nil_append _)
  rw [← accounted_iff, ← total, ← all]
  exact ⟨Account.records, fun accounted => ⟨accounted, sections⟩⟩

/-- A record with one word more. -/
def longer : Text := "dtape.ering seq=0 tag=recv_park a=0x1 b=0x2 c=0x3 d=0x4 e=0x5".toList

/-- Its line is counted as a record and as torn. -/
theorem longer_twice : (lines longer).length = 1 ∧ (parseRingDump longer).records.length = 1 ∧
    tornTotal (parseRingDump longer) = 1 ∧
    ¬Account longer (parseRingDump longer) := by
  have records : (parseRingDump longer).records.length = 1 := by decide +kernel
  have torn : tornTotal (parseRingDump longer) = 1 := by decide +kernel
  have once : ((lines longer).filterMap recordLine).length = 1 := by decide +kernel
  refine ⟨by decide +kernel, records, torn, fun account => ?_⟩
  have := account.records.once
  omega

end Accounting

end Darling.Diag
