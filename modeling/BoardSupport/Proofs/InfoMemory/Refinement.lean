import BoardSupport.Proofs.InfoMemory.Access

/-!
# Information memory on a flash array refines the plain store

Whatever bytes the array holds and however its controller was left, a session of commands gives the
answers of the plain store and ends with its contents (`session_refines`).  On the way no command
leaves the section it was granted, and one that stores nothing leaves the whole array alone.

The relation between the two is equality: `contents` of the array *is* the plain store.  So the
simulation needs one step, `Access.Outcome.refines`, and the run lemma is an induction over the
transitions of a session.
-/

namespace BoardSupport

namespace InfoMemory

open NorArray (address readHistory reprogramCalls)

/-- The addresses of a section. -/
def Section.Contains (sect : Section) (a : UInt16) : Prop :=
  sect.base ≤ a ∧ a.toNat < sect.base.toNat + sectionSize

/-- All bytes that a call accesses lie in a section. -/
def Section.Confines (sect : Section) (call : Flash.Call) : Prop :=
  ∀ a, call.address? = some a → sect.Contains a

/-- What the plain store promises of an access, and what the array adds to it. -/
structure Access.Faithful (d : Access) : Prop where
  /-- Answer and contents are those of the plain store. -/
  refines : (contents d.before.memory).perform d.command = (d.answer, contents d.after.memory)
  /-- Storing replaces the bytes of the range, and no others. -/
  replaced : ∀ sect, d.command.Stores sect → d.after.memory =
    overwrite d.before.memory (sect.offset + d.command.position.toNat) d.command.bytes
  /-- Any other command leaves the memory and the controller as they were. -/
  untouched : (∀ sect, ¬ d.command.Stores sect) → d.after = d.before
  /-- Every access is to the section that was granted, and a refused command makes none. -/
  confined : ∀ e ∈ d.calls, ∃ sect, d.command.grant = .ok sect ∧ sect.Confines e.1.call

/-! ## One access -/

theorem contains_address {sect : Section} {k : Nat} (h : k < sectionSize) :
    sect.Contains (address (sect.offset + k)) := by
  have hsect := offset_add_le sect
  have hbase : sect.base.toNat = NorArray.base.toNat + sect.offset := by
    rw [base_eq_address, NorArray.toNat_address (by omega)]
  have haddress := NorArray.toNat_address (i := sect.offset + k) (by omega)
  constructor
  · rw [UInt16.le_iff_toNat_le]
    omega
  · omega

theorem confines_readHistory {s : NorArray} {sect : Section} {position : Nat} {bytes : List UInt8}
    (hrange : position + bytes.length ≤ sectionSize) {e : Event Flash.interface × NorArray}
    (h : e ∈ readHistory s (sect.offset + position) bytes) : sect.Confines e.1.call := by
  obtain ⟨k, hk, he⟩ := NorArray.mem_readHistory h
  intro a ha
  rw [he] at ha
  cases ha
  rw [Nat.add_assoc]
  exact contains_address (by omega)

theorem confines_reprogramCalls {sect : Section} {bytes : List UInt8}
    (hlen : bytes.length ≤ sectionSize) {call : Flash.Call}
    (h : call ∈ reprogramCalls sect.offset bytes) : sect.Confines call := by
  intro a ha
  have hbase := @contains_address sect 0 (by decide)
  rw [Nat.add_zero] at hbase
  simp only [reprogramCalls, List.mem_cons, List.mem_append, List.mem_map, List.not_mem_nil,
    or_false] at h
  rcases h with rfl | rfl | rfl | rfl | ⟨w, hw, rfl⟩ | rfl | rfl
  · cases ha
  · cases ha
  · obtain rfl := Option.some.inj ha
    exact hbase
  · cases ha
  · cases ha
    obtain ⟨k, hk, hplace⟩ := NorArray.mem_placed hw
    rw [hplace]
    exact contains_address (by omega)
  · cases ha
  · cases ha

namespace Access.Outcome

variable {d : Access}

theorem confined (h : d.Outcome) {e : Event Flash.interface × NorArray} (he : e ∈ d.calls) :
    ∃ sect, d.command.grant = .ok sect ∧ sect.Confines e.1.call := by
  cases h with
  | refused _ _ _ hcalls =>
    rw [hcalls] at he
    cases he
  | fetched sect hgrant _ bytes hbytes _ hcalls =>
    refine ⟨sect, hgrant, ?_⟩
    have hrange := Command.range_of_grant hgrant
    have hsect := offset_add_le sect
    have hlen : bytes.length = d.command.bytes.length := by
      rw [hbytes, length_window (by omega)]
    rw [hcalls] at he
    exact confines_readHistory (by omega) he
  | idle _ _ _ _ _ hcalls =>
    rw [hcalls] at he
    cases he
  | stored sect hstores _ inner hcalls hinner =>
    refine ⟨sect, hstores.1, ?_⟩
    have hlen := @length_renewed d.before sect _ _ (Command.range_of_grant hstores.1)
    rw [hcalls, storeHistory] at he
    simp only [List.mem_append, List.mem_cons, List.not_mem_nil, or_false] at he
    rcases he with he | rfl | he | rfl
    · -- the segment is read before it is erased
      have hsaved := @length_window _ d.before.memory _ _ (offset_add_le sect)
      have hrange : 0 + (window d.before.memory sect.offset sectionSize).length ≤ sectionSize := by
        omega
      rw [← Nat.add_zero sect.offset] at he hrange
      exact confines_readHistory hrange he
    · intro a ha
      cases ha
    · refine confines_reprogramCalls (Nat.le_of_eq hlen) ?_
      rw [← hinner.calls]
      exact List.mem_map_of_mem he
    · intro a ha
      cases ha

theorem refines (h : d.Outcome) :
    (contents d.before.memory).perform d.command = (d.answer, contents d.after.memory) := by
  cases h with
  | refused e hgrant hanswer _ hafter => rw [Store.perform, hgrant, hanswer, hafter]
  | fetched sect hgrant hread bytes hbytes hanswer _ hafter =>
    rw [Store.perform, hgrant, hanswer, hafter, hbytes]
    simp only [hread, window_contents _ _ (Command.range_of_grant hgrant)]
    rfl
  | idle sect hgrant hwrite hempty hanswer _ hafter =>
    have hput : (contents d.before.memory).put sect d.command.position.toNat [] =
        contents d.before.memory := by
      funext other
      rw [Store.put, overwrite_nil]
      split
      · next h => rw [h]
      · rfl
    rw [Store.perform, hgrant, hanswer, hafter, hempty]
    simp only [hwrite, hput]
    rfl
  | stored sect hstores hanswer _ _ _ hafter =>
    obtain ⟨hgrant, hwrite, -⟩ := hstores
    rw [Store.perform, hgrant, hanswer, hafter, stored_memory,
      contents_overwrite _ _ (Command.range_of_grant hgrant)]
    show (d.command.answer _ _, if d.command.isWrite = true then _ else _) = _
    rw [Command.answer_of_isWrite hwrite, if_pos hwrite]

theorem untouched (h : d.Outcome) (hnone : ∀ sect, ¬ d.command.Stores sect) :
    d.after = d.before := by
  cases h with
  | refused _ _ _ _ hafter => exact hafter
  | fetched _ _ _ _ _ _ _ hafter => exact hafter
  | idle _ _ _ _ _ _ hafter => exact hafter
  | stored sect hstores => exact absurd hstores (hnone sect)

theorem faithful (h : d.Outcome) : d.Faithful := by
  refine ⟨h.refines, ?_, h.untouched, fun e he => h.confined he⟩
  rintro sect ⟨hgrant, hwrite, -⟩
  -- the plain store fixes the contents, and with them every byte of the array
  have hcontents := congrArg Prod.snd h.refines
  rw [Store.perform, hgrant] at hcontents
  simp only [hwrite, if_true] at hcontents
  rw [← contents_overwrite _ _ (Command.range_of_grant hgrant)] at hcontents
  exact (contents_injective hcontents).symm

end Access.Outcome

/-! ## Sessions -/

/-- From every state of the array every session of commands comes to its end.  Its answers are those
of the plain store, it ends with the contents of the plain store, and every single access is
faithful. -/
theorem session_refines (s : NorArray) (cs : List Command) :
    ∃ ds t, Machine.session NorArray.handler perform cs s = .ok (ds, t) ∧
      (contents s.memory).run cs =
        (ds.map fun d => ⟨d.command, d.answer⟩, contents t.memory) ∧
      ∀ d ∈ ds, Access.Faithful d := by
  obtain ⟨ds, t, hsession, hcommands, hways⟩ := session_ok cs s
  have hall : ∀ d ∈ ds, Access.Faithful d := fun d hd => (hways d hd).faithful
  refine ⟨ds, t, hsession, ?_, hall⟩
  rw [← hcommands]
  -- the transitions follow one another, and each is a step of the plain store
  revert hall
  refine Machine.session_induction
    (motive := fun s ds t => (∀ d ∈ ds, Access.Faithful d) → (contents s.memory).run
      (ds.map Transition.command) = (ds.map fun d => ⟨d.command, d.answer⟩, contents t.memory))
    ?_ ?_ hsession
  · intro s _
    rfl
  · intro d ds t ih hall
    have hfirst := (hall d List.mem_cons_self).refines
    have hlater := ih fun x hx => hall x (List.mem_cons_of_mem d hx)
    rw [List.map_cons, Store.run, hfirst]
    simp only [hlater, List.map_cons]

end InfoMemory

end BoardSupport
