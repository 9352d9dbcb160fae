import BoardSupport.Proofs.InfoMemory.Access

/-!
# How information memory treats the flash controller

Erasing and programming flash wants a discipline: unlock late, do both with interrupts masked, erase
a segment once and only when it is put back, and lock again.  `Access.Disciplined` says what that
means for the history of one access, and `Ledger` what is left of it in the counters of the array
after a whole session (`session_disciplined`).

Nothing is assumed of the state in which a session begins: the controller may have been left open or
in some mode, and interrupts may be masked already.
-/

namespace BoardSupport.InfoMemory

open NorArray (Operation address operation? operations readHistory reprogramCalls
  reprogramOperations MaskedHistory)

/-- The base of the segment that a command erases, if it erases any. -/
def Command.erased? (c : Command) : Option UInt16 :=
  match c.grant with
  | .ok sect => if c.isWrite = true ∧ c.bytes ≠ [] then some sect.base else none
  | .error _ => none

/-- The calls of storing a segment that is to hold `bytes`: the segment is read, and all the rest
lies between one mask and one unmask. -/
def storeCalls (sect : Section) (bytes : List UInt8) : List Flash.Call :=
  ((List.range sectionSize).map fun k => .read (sect.base + k.toUInt16)) ++
    .mask ::
      ([.setControl3 0, .setControl1 FlashControl1.erase, .write sect.base 0,
        .setControl1 FlashControl1.write] ++
      bytes.mapIdx (fun k byte => .write (sect.base + k.toUInt16) byte) ++
      [.setControl1 0, .setControl3 FlashControl3.lock, .unmask])

/-- What these calls do to the array: one segment is erased, and then each of its bytes programmed
once, in ascending order. -/
def storeOperations (sect : Section) (bytes : List UInt8) : List Operation :=
  [.unlock, .setMode FlashControl1.erase, .erase sect.base, .setMode FlashControl1.write] ++
    bytes.mapIdx (fun k byte => .program (sect.base + k.toUInt16) byte) ++
    [.setMode 0, .lock]

/-- The bytes that a section holds. -/
def held (s : NorArray) (sect : Section) : List UInt8 := window s.memory sect.offset sectionSize

/-- The discipline of one access. -/
structure Access.Disciplined (d : Access) : Prop where
  /-- Storing makes these calls, and no others. -/
  calls : ∀ sect, d.command.Stores sect →
    d.calls.map (·.1.call) = storeCalls sect (held d.after sect)
  /-- They do this to the array, with its 128 bytes. -/
  operations : ∀ sect, d.command.Stores sect → (held d.after sect).length = sectionSize ∧
    operations d.calls = storeOperations sect (held d.after sect)
  /-- Whatever is done to the array is done with interrupts masked. -/
  masked : ∀ e ∈ d.calls, operation? e.1.call e.2 ≠ none → e.2.isMasked = true
  /-- Storing leaves the controller locked and without a mode. -/
  relocked : ∀ sect, d.command.Stores sect → d.after.locked = true ∧ d.after.control1 = 0
  /-- Any other command makes no calls but reads, and changes nothing. -/
  quiet : (∀ sect, ¬ d.command.Stores sect) →
    (∀ e ∈ d.calls, ∃ a, e.1.call = .read a) ∧ d.after = d.before

/-- What the commands `cs` add to the counters of the array. -/
structure Ledger (s : NorArray) (cs : List Command) (t : NorArray) : Prop where
  /-- One segment is noted as erased for each command that stores bytes, in their order. -/
  erased : t.erased = s.erased ++ cs.filterMap Command.erased?
  /-- Each of these commands programs a whole segment. -/
  programmed : t.programmed = s.programmed + sectionSize * (cs.filterMap Command.erased?).length
  /-- Nothing was erased or programmed with interrupts open. -/
  unmasked : t.unmasked = s.unmasked
  /-- Interrupts are masked as deep as before. -/
  depth : t.depth = s.depth

/-! ## The calls of an access -/

theorem erased?_of_stores {c : Command} {sect : Section} (h : c.Stores sect) :
    c.erased? = some sect.base := by
  obtain ⟨hgrant, hwrite, hdata⟩ := h
  rw [Command.erased?, hgrant]
  exact if_pos ⟨hwrite, hdata⟩

theorem erased?_of_not_stores {c : Command} (h : ∀ sect, ¬ c.Stores sect) : c.erased? = none := by
  rw [Command.erased?]
  cases hgrant : c.grant with
  | error e => rfl
  | ok sect => exact if_neg fun hdata => h sect ⟨hgrant, hdata⟩

theorem storeCalls_eq (sect : Section) (bytes : List UInt8) :
    storeCalls sect bytes =
      ((List.range sectionSize).map fun k => .read (address sect.offset + k.toUInt16)) ++
        .mask :: (reprogramCalls sect.offset bytes ++ [.unmask]) := by
  rw [storeCalls, reprogramCalls, NorArray.map_placed, base_eq_address]
  simp only [List.cons_append, List.nil_append, List.append_assoc]

theorem storeOperations_eq (sect : Section) (bytes : List UInt8) :
    storeOperations sect bytes = reprogramOperations sect.offset bytes := by
  rw [storeOperations, reprogramOperations, NorArray.map_placed, base_eq_address]
  simp only [List.cons_append, List.nil_append]

theorem operation?_of_read {call : Flash.Call} (h : ∃ a, call = .read a) (s : NorArray) :
    operation? call s = none := by
  obtain ⟨a, rfl⟩ := h
  rfl

theorem isRead_of_mem_readHistory {s : NorArray} {i : Nat} {bytes : List UInt8}
    {e : Event Flash.interface × NorArray} (h : e ∈ readHistory s i bytes) :
    ∃ a, e.1.call = .read a := by
  obtain ⟨k, -, he⟩ := NorArray.mem_readHistory h
  exact ⟨_, he⟩

/-- What a section holds once bytes are stored in it. -/
theorem held_stored (s : NorArray) (sect : Section) {position : UInt8} {data : List UInt8}
    (h : Fits position data.length) :
    held (stored s sect position data) sect = renewed s sect position data := by
  have hsect := offset_add_le sect
  have hlen := @length_renewed s sect position data h
  have hput : overwrite s.memory (sect.offset + position.toNat) data =
      overwrite s.memory sect.offset (renewed s sect position data) :=
    (overwrite_splice h hsect).symm
  rw [held, stored_memory, hput, ← hlen]
  exact window_overwrite (by omega)

/-! ## Every access is disciplined -/

namespace Access.Outcome

variable {d : Access}

theorem stores_or_quiet (h : d.Outcome) : (∃ sect, d.command.Stores sect) ∨
    (∀ sect, ¬ d.command.Stores sect) ∧ (∀ e ∈ d.calls, ∃ a, e.1.call = .read a) ∧
      d.after = d.before := by
  cases h with
  | refused e hgrant _ hcalls hafter =>
    refine .inr ⟨?_, by simp [hcalls], hafter⟩
    rintro sect ⟨hother, -⟩
    rw [hgrant] at hother
    cases hother
  | fetched sect _ hread _ _ _ hcalls hafter =>
    refine .inr ⟨?_, ?_, hafter⟩
    · rintro other ⟨-, hwrite, -⟩
      rw [hread] at hwrite
      cases hwrite
    · rw [hcalls]
      exact fun e he => isRead_of_mem_readHistory he
  | idle _ _ _ hempty _ hcalls hafter =>
    refine .inr ⟨?_, by simp [hcalls], hafter⟩
    rintro other ⟨-, -, hdata⟩
    exact hdata hempty
  | stored sect hstores => exact .inl ⟨sect, hstores⟩

/-- The one case in which anything happens. -/
theorem inner_of_stores (h : d.Outcome) {sect : Section} (hstores : d.command.Stores sect) :
    ∃ inner, d.calls = storeHistory d.before sect inner d.after ∧
      MaskedHistory inner (reprogramCalls sect.offset (held d.after sect))
        (reprogramOperations sect.offset (held d.after sect)) ∧
      d.after = InfoMemory.stored d.before sect d.command.position d.command.bytes := by
  have ⟨hgrant, hwrite, hdata⟩ := hstores
  cases h with
  | refused e hrefused =>
    rw [hrefused] at hgrant
    cases hgrant
  | fetched _ _ hread =>
    rw [hread] at hwrite
    cases hwrite
  | idle _ _ _ hempty => exact absurd hempty hdata
  | stored other hother _ inner hcalls hinner hafter =>
    obtain rfl : other = sect := Except.ok.inj (hother.1.symm.trans hgrant)
    refine ⟨inner, hcalls, ?_, hafter⟩
    rw [hafter, held_stored _ _ (Command.range_of_grant hgrant)]
    exact hinner

theorem disciplined (h : d.Outcome) : d.Disciplined := by
  rcases h.stores_or_quiet with ⟨sect, hstores⟩ | ⟨hnone, hreads, hafter⟩
  · have hunique : ∀ {other}, d.command.Stores other → other = sect := fun hother =>
      Except.ok.inj (hother.1.symm.trans hstores.1)
    obtain ⟨inner, hcalls, hinner, hafter⟩ := h.inner_of_stores hstores
    have hlen : (held d.after sect).length = sectionSize := length_window (offset_add_le sect)
    refine ⟨?_, ?_, ?_, ?_, fun hnone => absurd hstores (hnone sect)⟩
    · intro other hother
      obtain rfl := hunique hother
      -- what is read beforehand is a whole segment
      have hsaved := @length_window _ d.before.memory _ _ (offset_add_le other)
      rw [hcalls, storeHistory, storeCalls_eq, List.map_append, NorArray.calls_readHistory, hsaved,
        List.map_cons, List.map_append, hinner.calls]
      rfl
    · intro other hother
      obtain rfl := hunique hother
      refine ⟨hlen, ?_⟩
      -- masking and unmasking do nothing to the array, and neither does reading
      have hends : operations (storeHistory d.before other inner d.after) =
          [] ++ (operations inner ++ []) := by
        rw [storeHistory, NorArray.operations_append, NorArray.operations_readHistory]
        exact congrArg _ (NorArray.operations_append inner _)
      rw [hcalls, hends, hinner.operations, storeOperations_eq, List.append_nil, List.nil_append]
    · intro e he hop
      rw [hcalls, storeHistory] at he
      simp only [List.mem_append, List.mem_cons, List.not_mem_nil, or_false] at he
      -- only the calls between mask and unmask do anything
      rcases he with he | rfl | he | rfl
      · exact absurd (operation?_of_read (isRead_of_mem_readHistory he) e.2) hop
      · exact absurd rfl hop
      · exact hinner.masked e he
      · exact absurd rfl hop
    · intro other _
      rw [hafter]
      exact ⟨stored_locked .., stored_control1 ..⟩
  · refine ⟨fun sect hstores => absurd hstores (hnone sect),
      fun sect hstores => absurd hstores (hnone sect), ?_,
      fun sect hstores => absurd hstores (hnone sect), fun _ => ⟨hreads, hafter⟩⟩
    intro e he hop
    exact absurd (operation?_of_read (hreads e he) e.2) hop

end Access.Outcome

/-! ## Whole sessions -/

namespace Ledger

theorem refl (s : NorArray) : Ledger s [] s :=
  ⟨(List.append_nil _).symm, rfl, rfl, rfl⟩

theorem trans {s t u : NorArray} {cs cs' : List Command} (first : Ledger s cs t)
    (later : Ledger t cs' u) : Ledger s (cs ++ cs') u := by
  refine ⟨?_, ?_, ?_, ?_⟩
  · rw [later.erased, first.erased, List.filterMap_append, List.append_assoc]
  · rw [later.programmed, first.programmed, List.filterMap_append, List.length_append,
      Nat.mul_add, Nat.add_assoc]
  · rw [later.unmasked, first.unmasked]
  · rw [later.depth, first.depth]

end Ledger

theorem Access.Outcome.ledger {d : Access} (h : d.Outcome) :
    Ledger d.before [d.command] d.after := by
  rcases h.stores_or_quiet with ⟨sect, hstores⟩ | ⟨hnone, -, hafter⟩
  · obtain ⟨inner, -, -, hafter⟩ := h.inner_of_stores hstores
    have hone : [d.command].filterMap Command.erased? = [sect.base] :=
      List.filterMap_cons_some (erased?_of_stores hstores)
    rw [hafter]
    refine ⟨?_, ?_, stored_unmasked .., stored_depth ..⟩
    · rw [hone, stored_erased]
    · rw [hone, stored_programmed, List.length_singleton, Nat.mul_one]
  · have hone : [d.command].filterMap Command.erased? = [] :=
      List.filterMap_cons_none (erased?_of_not_stores hnone)
    rw [hafter]
    refine ⟨?_, ?_, rfl, rfl⟩
    · rw [hone, List.append_nil]
    · rw [hone, List.length_nil, Nat.mul_zero, Nat.add_zero]

/-- From every state of the array, with interrupts masked to any depth, every session comes to its
end; each of its accesses keeps the discipline, and the counters grow by what its commands store. -/
theorem session_disciplined (s : NorArray) (cs : List Command) :
    ∃ ds t, Machine.session NorArray.handler perform cs s = .ok (ds, t) ∧
      ds.map Transition.command = cs ∧ (∀ d ∈ ds, Access.Disciplined d) ∧ Ledger s cs t := by
  obtain ⟨ds, t, hsession, hcommands, hall⟩ := session_ok cs s
  refine ⟨ds, t, hsession, hcommands, fun d hd => (hall d hd).disciplined, ?_⟩
  rw [← hcommands]
  revert hall
  refine Machine.session_induction
    (motive := fun s ds t => (∀ d ∈ ds, Access.Outcome d) →
      Ledger s (ds.map Transition.command) t) ?_ ?_ hsession
  · intro s _
    exact .refl s
  · intro d ds t ih hall
    have hfirst := (hall d List.mem_cons_self).ledger
    have hlater := ih fun x hx => hall x (List.mem_cons_of_mem d hx)
    exact hfirst.trans hlater

end BoardSupport.InfoMemory
