import Mathlib.Data.List.Forall2
import SpectralBench.Documents
import SpectralBench.Journal.JsonLines
import SpectralBench.Proofs.Journal
import SpectralBench.Proofs.Json

/-!
# Reports of JSON objects read back

A report is cut into its lines, and every line is read on its own: as a value by the parser, and as
a configuration by the decoder of documents, which passes over the members that it does not know.
Both readers see the same node, since the library that wrote the line is faithful (`Library.Faithful`),
so all that is left is to look its members up.

Main statements:

* `decode_recordValue` — the line of a record decodes to the record's configuration.
* `lines_read_back` — what a header and a list of records leave in a report is one object per line,
  and each object tells its record.
-/

namespace SpectralBench

open Json

/-! ## Labels and extents -/

theorem Kind.decode_label (kind : Kind) : Kind.decode (.text (.ok kind.label)) = .ok kind := by
  cases kind <;> rfl

theorem Placement.decode_label (placement : Placement) :
    Placement.decode (.text (.ok placement.label)) = .ok placement := by
  cases placement <;> rfl

theorem Precision.decode_label (precision : Precision) :
    Precision.decode (.text (.ok precision.label)) = .ok precision := by
  cases precision <;> rfl

namespace Journal.JsonLines

theorem plain_natural {n : Nat} (h : n < Word.count) (depth : Nat) : (natural n).Plain depth :=
  ⟨n, h, rfl⟩

/-- Numbers that are words can be written, at any depth. -/
theorem itemsPlain_naturals (words : List UInt64) (depth : Nat) :
    ItemsPlain depth ((words.map (·.toNat)).map natural) := by
  induction words with
  | nil => exact trivial
  | cons w rest ih => exact ⟨plain_natural w.toNat_lt depth, ih⟩

theorem mapM_asWord (words : List UInt64) :
    (itemNodes ((words.map (·.toNat)).map natural)).mapM (Node.asWord "usize") = .ok words := by
  induction words with
  | nil => rfl
  | cons w rest ih =>
    have hword : (natural w.toNat).node.asWord "usize" = .ok w := by
      simp [natural, Value.node, Node.asWord]
    simp only [List.map_cons, itemNodes, List.mapM_cons, hword, ih]
    rfl

/-- An extent is decoded from the array of its lengths. -/
theorem decode_extent (e : Extent) :
    Extent.decode (Value.array (e.sizes.map natural)).node = .ok e := by
  have hdims : (Value.array (e.sizes.map natural)).node.asList (Node.asWord "usize") =
      .ok e.dims := by
    rw [Value.node, Node.asList, Extent.sizes, mapM_asWord]
    rfl
  rw [Extent.decode, hdims]
  exact congrArg (Except.mapError _) e.ofList_dims

/-! ## Entries of an object -/

section Entries

variable {σ : Type} {form : Form σ} {record record' : σ} {seen : List String} {name : String}
  {content : Node} {rest : List (Except Fault String × Node)}

/-- A member of an unknown name is passed over. -/
theorem readEntries_unknown (hlax : form.strict = false)
    (hname : form.fields.find? (·.name = name) = none) (hskip : content.skip = .ok ()) :
    form.readEntries record seen ((.ok name, content) :: rest) =
      form.readEntries record seen rest := by
  have hfield : (Except.ok name).bind (form.field? seen) = .ok none := by
    simp [Except.bind, Form.field?, hname, hlax]
  have hstep : form.readEntries record seen ((.ok name, content) :: rest) =
      content.skip >>= fun _ => form.readEntries record seen rest := by
    rw [Form.readEntries, hfield]
    rfl
  rw [hstep, hskip]
  rfl

/-- A member that is met for the first time fills its field. -/
theorem readEntries_known {member : Member σ} (hname : form.fields.find? (·.name = name) = some member)
    (hseen : seen.contains name = false) (hset : member.set content record = .ok record') :
    form.readEntries record seen ((.ok name, content) :: rest) =
      form.readEntries record' (member.name :: seen) rest := by
  have hfield : (Except.ok name).bind (form.field? seen) = .ok (some member) := by
    simp only [Except.bind, Form.field?, hname, hseen]
    rfl
  have hstep : form.readEntries record seen ((.ok name, content) :: rest) =
      member.set content record >>= fun after =>
        form.readEntries after (member.name :: seen) rest := by
    rw [Form.readEntries, hfield]
    rfl
  rw [hstep, hset]
  rfl

end Entries

/-- The members behind the extents are none that a configuration knows. -/
theorem readEntries_tail (draft : Configuration.Draft) (seen : List String) (r : Record) :
    Configuration.form.readEntries draft seen (entryNodes ([
      ("run", natural r.trial.run.toNat),
      ("warmup", .bool r.trial.warmup),
      ("phase", .text r.phase.label),
      ("duration_ns", natural r.durationNs.toNat),
      ("status", .text r.status.label)] ++
      (r.message.map fun text => ("message", .text text)).toList)) = .ok (draft, seen) := by
  cases r.message <;>
    simp only [Option.map_none, Option.map_some, Option.toList_none, Option.toList_some,
      List.cons_append, List.nil_append, entryNodes] <;>
    repeat rw [readEntries_unknown rfl rfl rfl]
  all_goals rfl

/-- The configuration of a record is decoded from the members that describe it; the others are
passed over. -/
theorem decode_recordValue (r : Record) :
    Configuration.decode (recordValue r).node = .ok r.configuration := by
  have hread : Configuration.form.read ⟨none, none, none, none⟩ (recordValue r).node =
      .ok ⟨some r.configuration.kind, some r.configuration.placement,
        some r.configuration.precision, some r.configuration.extent⟩ := by
    have htail := fun draft seen => readEntries_tail draft seen r
    rw [recordValue, Value.node, Form.read]
    simp only [List.cons_append, List.nil_append, entryNodes] at htail ⊢
    rw [readEntries_unknown rfl rfl rfl,
      readEntries_known (by rfl) rfl (congrArg (Except.map _) (Kind.decode_label _)),
      readEntries_known (by rfl) rfl (congrArg (Except.map _) (Placement.decode_label _)),
      readEntries_known (by rfl) rfl (congrArg (Except.map _) (Precision.decode_label _)),
      readEntries_known (by rfl) rfl (congrArg (Except.map _) (decode_extent _)), htail]
    rfl
  rw [Configuration.decode, hread]
  rfl

/-! ## Lines of a report -/

theorem plain_headerValue (header : Header) : (headerValue header).Plain 2 := by
  simp [headerValue, Value.Plain, FieldsPlain]

theorem plain_recordValue (r : Record) : (recordValue r).Plain 2 := by
  have hextents : (Value.array (r.configuration.extent.sizes.map natural)).Plain 1 :=
    ⟨by decide, itemsPlain_naturals _ 0⟩
  have hrun : (natural r.trial.run.toNat).Plain 1 := plain_natural r.trial.run.toNat_lt 1
  have hduration : (natural r.durationNs.toNat).Plain 1 := plain_natural r.durationNs.toNat_lt 1
  have hmessage : FieldsPlain 1 (r.message.map fun text => ("message", Value.text text)).toList := by
    cases r.message <;> simp [FieldsPlain, Value.Plain]
  exact ⟨by decide, trivial, trivial, trivial, trivial, hextents, hrun, trivial, trivial, hduration,
    trivial, hmessage⟩

section Written

variable {library : Library} (hfaithful : library.Faithful)

theorem putLine_writes (library : Library) (value : Value) (before : String) :
    (putLine library Writer.appending value).run.run before =
      (.ok (), before ++ (library.write value ++ "\n")) := by
  rw [← String.append_assoc]
  rfl

/-- A record adds its object and a line break to what was written before. -/
theorem journal_writes (library : Library) :
    (journal library Writer.appending).Writes fun r => library.write (recordValue r) ++ "\n" :=
  fun r => putLine_writes library (recordValue r)

/-- The member of a given name of the object that a line holds. -/
def member? (library : Library) (line name : String) : Option Value :=
  match library.parse line with
  | .ok (.object members) => members.lookup name
  | _ => none

include hfaithful

/-- A reader finds in a written object the members that it was written from. -/
theorem member?_write {members : List (String × Value)} (h : (Value.object members).Plain 2)
    (name : String) :
    member? library (library.write (.object members)) name = members.lookup name := by
  rw [member?, hfaithful.parse_write h (by decide)]

/-- A written value has no line feed, as its control characters are escaped. -/
theorem not_feed_of_mem_write {depth : Nat} {v : Value} (h : v.Plain depth) :
    ∀ c ∈ (library.write v).toList, (c = '\n' : Bool) = false := by
  intro c hc
  have hcontrol := hfaithful.escapes h c hc
  refine decide_eq_false ?_
  rintro rfl
  exact absurd hcontrol (by decide)

omit hfaithful

/-- A line that is an object with the fields of a record, each under its name, and that the decoder
of configurations takes for the record's configuration. -/
structure Tells (library : Library) (line : String) (r : Record) : Prop where
  object : ∃ members, library.parse line = .ok (.object members)
  backend : member? library line "backend" = some (.text r.backend)
  kind : member? library line "kind" = some (.text r.configuration.kind.label)
  placement : member? library line "placement" = some (.text r.configuration.placement.label)
  precision : member? library line "precision" = some (.text r.configuration.precision.label)
  extents : member? library line "extents" =
    some (.array (r.configuration.extent.sizes.map fun n => .number (.natural n)))
  run : member? library line "run" = some (.number (.natural r.trial.run.toNat))
  warmup : member? library line "warmup" = some (.bool r.trial.warmup)
  phase : member? library line "phase" = some (.text r.phase.label)
  duration : member? library line "duration_ns" = some (.number (.natural r.durationNs.toNat))
  status : member? library line "status" = some (.text r.status.label)
  message : member? library line "message" = r.message.map .text
  configuration : library.decode Configuration.decode line = .ok r.configuration

/-- The line of a record tells all that the record says. -/
theorem tells_write (hfaithful : library.Faithful) (r : Record) :
    Tells library (library.write (recordValue r)) r := by
  have hmember (name : String) : member? library (library.write (recordValue r)) name = _ :=
    member?_write hfaithful (plain_recordValue r) name
  exact {
    object := ⟨_, hfaithful.parse_write (plain_recordValue r) (by decide)⟩
    backend := hmember _
    kind := hmember _
    placement := hmember _
    precision := hmember _
    extents := hmember _
    run := hmember _
    warmup := hmember _
    phase := hmember _
    duration := hmember _
    status := hmember _
    message := by
      rw [hmember]
      cases r.message <;> rfl
    configuration :=
      hfaithful.decode_write (plain_recordValue r) (by decide) (decode_recordValue r) }

/-- **A report reads back.** Whatever library writes it, if that library escapes control characters
and reads what it wrote: what a header and a list of records leave in a report, whatever was there
before, is one line for the header and one for each record, each of them ended by a line feed. The
first line is an object with the header alone, and every other line is an object that tells its
record. -/
theorem lines_read_back (hfaithful : library.Faithful) (header : Header) (records : List Record)
    (before : String) :
    ∃ text first rest,
      (do (journal library Writer.appending).start header
          records.forM (journal library .appending).record).run.run before =
        (.ok (), before ++ text) ∧
      Text.split (· = '\n') text.toList = (first :: rest).map String.toList ++ [[]] ∧
      library.parse first = .ok (.object [("header", .object [
        ("title", .text header.title), ("device_description", .text header.device),
        ("timer", .text header.timer), ("started", .text header.started)])]) ∧
      List.Forall₂ (Tells library) rest records := by
  let values := headerValue header :: records.map recordValue
  have hplain : ∀ v ∈ values, v.Plain 2 := by
    simp only [values, List.forall_mem_cons, List.forall_mem_map]
    exact ⟨plain_headerValue header, fun r _ => plain_recordValue r⟩
  refine ⟨String.join (values.map fun v => library.write v ++ "\n"),
    library.write (headerValue header), records.map fun r => library.write (recordValue r),
    ?_, ?_, ?_, ?_⟩
  · have hstart : ((journal library .appending).start header).run.run before =
        (.ok (), before ++ (library.write (headerValue header) ++ "\n")) :=
      putLine_writes library (headerValue header) before
    rw [run_bind_of_ok hstart, records_leave (journal_writes library)]
    simp [values, List.map_map, Function.comp_def, String.append_assoc, String.join_cons]
  · have htext : (String.join (values.map fun v => library.write v ++ "\n")).toList =
        (values.map fun v => (library.write v).toList).flatMap (· ++ ['\n']) := by
      simp [String.toList_join, List.flatMap_map]
    -- no value has a line feed of its own, so the text is cut behind each of them
    rw [htext, Text.split_flatMap _ (by decide)]
    · simp [values]
    · rw [List.forall_mem_map]
      exact fun v hv => not_feed_of_mem_write hfaithful (hplain v hv)
  · exact hfaithful.parse_write (plain_headerValue header) (by decide)
  · rw [List.forall₂_map_left_iff, List.forall₂_same]
    exact fun r _ => tells_write hfaithful r

/-- A title and a message with a line feed in each: there are two lines nevertheless, and the second
one still has the message. -/
theorem lines_read_back_broken :
    let library := Library.standard
    let header : Header := { title := "a\nb", device := "CPU", timer := "wall", started := "T" }
    let record : Record :=
      { backend := "host"
        configuration :=
          { kind := .real, placement := .inPlace, precision := .single
            extent := ⟨[3, 2], by decide, by decide, by simp⟩ }
        trial := ⟨0, false⟩
        phase := .setup
        durationNs := 0
        status := .failed
        message := some "no plan\nfor it" }
    ∃ text first line,
      (do (journal library Writer.appending).start header
          [record].forM (journal library .appending).record).run.run "" = (.ok (), "" ++ text) ∧
      Text.split (· = '\n') text.toList = [String.toList first, String.toList line, []] ∧
      member? library line "message" = some (.text "no plan\nfor it") ∧
      library.decode Configuration.decode line = .ok record.configuration := by
  intro library header record
  obtain ⟨text, first, rest, hrun, hsplit, -, htells⟩ :=
    lines_read_back Library.standard_faithful header [record] ""
  obtain ⟨line, rest, htold, hrest, rfl⟩ := List.forall₂_cons_right_iff.1 htells
  obtain rfl := List.forall₂_nil_right_iff.1 hrest
  exact ⟨text, first, line, hrun, hsplit, htold.message, htold.configuration⟩

end Written

end Journal.JsonLines

end SpectralBench
