import Mathlib.Data.List.Nodup
import PacketTunnel.Proofs.DirectStep
import PacketTunnel.Proofs.SystemLog

/-!
# Where the slots of a window come from

Commands wait in the order in which they were sent, and the server keeps a slot open for each of
them that asks for one. So the window is the end of what was kept open, and every slot belongs to
the client that sent its command.
-/

namespace PacketTunnel.Ipc

variable {ω : Type}

/-- The slots that commands keep open have identifiers of these commands, in order. -/
theorem ids_slotOf (sent : List (Nat × Command Action)) :
    ((sent.filterMap slotOf).map (·.command.id)).Sublist (sent.map (·.2.id)) := by
  induction sent with
  | nil => exact .slnil
  | cons p rest ih =>
    obtain ⟨client, command⟩ := p
    by_cases haction : command.action = .fillBuffer
    · have hslot : slotOf (client, command) = some ⟨command, client⟩ := if_pos haction
      rw [List.filterMap_cons_some hslot]
      exact ih.cons_cons command.id
    · have hslot : slotOf (client, command) = none := if_neg haction
      rw [List.filterMap_cons_none hslot]
      exact ih.cons command.id

namespace Direct

/-- What the window holds are the newest of the slots that the server has kept open, and what waits
to be kept open has been sent. `sent` and `kept` are the commands sent and the slots kept so far. -/
structure Accounts (d : Direct ω) (sent : List (Nat × Command Action)) (kept : List (Slot Nat)) :
    Prop where
  /-- The window is the end of what was kept open. -/
  window : d.slots <:+ kept
  /-- What was kept open and what waits was sent in this order. -/
  order : (kept ++ d.jobs.filterMap ServerJob.slot?).Sublist (sent.filterMap slotOf)
  /-- Only clients that there are send commands. -/
  clients : ∀ p ∈ sent, p.1 < d.links.length

theorem length_links_modifyClient (d : Direct ω) (client : Nat) (change : Client → Client) :
    (d.modifyClient client change).links.length = d.links.length := List.length_modify _ _ _

/-- What a step of a client's task queue has sent. -/
theorem sent_turn {id : Uuid} {commands : List (Command Action)}
    (hids : ∀ command ∈ commands, command.id = id) (client : Nat) (events : List ClientEvent) :
    (commands.map (.sent client ·.action) ++ events.map (.event client) :
      List (SystemOutput ω)).filterMap (SystemOutput.sent? id) = commands.map (client, ·) := by
  have hevents : (events.map (.event client) : List (SystemOutput ω)).filterMap
      (SystemOutput.sent? id) = [] := by
    apply List.filterMap_eq_nil_iff.mpr
    intro output houtput
    obtain ⟨event, _, rfl⟩ := List.mem_map.mp houtput
    rfl
  rw [List.filterMap_append, hevents, List.append_nil]
  induction commands with
  | nil => rfl
  | cons command rest ih =>
    obtain ⟨hid, hrest⟩ := List.forall_mem_cons.mp hids
    rw [List.map_cons, List.map_cons, ← ih hrest, ← hid]
    rfl

namespace Accounts

variable {d d' : Direct ω} {sent : List (Nat × Command Action)} {kept : List (Slot Nat)}

/-- Every slot belongs to the client that sent its command. -/
theorem sent_of_kept (h : d.Accounts sent kept) {slot : Slot Nat} (hslot : slot ∈ kept) :
    (slot.handler, slot.command) ∈ sent := by
  obtain ⟨⟨client, command⟩, hmem, hslotOf⟩ := List.mem_filterMap.mp
    (h.order.subset (List.mem_append_left _ hslot))
  rw [slotOf] at hslotOf
  split at hslotOf
  · obtain rfl := Option.some.inj hslotOf
    exact hmem
  · exact absurd hslotOf (Option.some_ne_none _).symm

/-- Every slot belongs to a client. -/
theorem handler_lt (h : d.Accounts sent kept) {slot : Slot Nat} (hslot : slot ∈ d.slots) :
    slot.handler < d.links.length := by
  have hkept := h.window.subset hslot
  exact h.clients _ (h.sent_of_kept hkept)

/-- A command that has its turn is new to the window if identifiers are distinct. -/
theorem new_of_nodup (h : d.Accounts sent kept) (hids : (sent.map (·.2.id)).Nodup)
    {id : Uuid} {client : Nat} {rest : List (ServerJob Nat ω)}
    (hjobs : d.jobs = .handle ⟨id, .fillBuffer⟩ client :: rest) :
    ∀ slot ∈ d.slots, slot.command.id ≠ id := by
  intro slot hslot heq
  have hdistinct := ((h.order.map (·.command.id)).trans (ids_slotOf sent)).nodup hids
  rw [hjobs, List.map_append, List.nodup_append] at hdistinct
  refine hdistinct.2.2 slot.command.id (List.mem_map_of_mem (h.window.subset hslot)) id ?_ heq
  exact List.mem_map.mpr ⟨⟨⟨id, .fillBuffer⟩, client⟩, List.mem_cons_self .., rfl⟩

/-- A step that touches neither the window nor what waits to be kept open changes nothing. -/
theorem of_same (h : d.Accounts sent kept) (hslots : d'.slots = d.slots)
    (hjobs : d'.jobs.filterMap ServerJob.slot? = d.jobs.filterMap ServerJob.slot?)
    (hlinks : d'.links.length = d.links.length) : d'.Accounts (sent ++ []) (kept ++ []) := by
  rw [List.append_nil, List.append_nil]
  exact ⟨hslots ▸ h.window, hjobs ▸ h.order, hlinks ▸ h.clients⟩

/-- A server that runs a job which keeps no slot open is left with the end of its window. -/
theorem of_shorter (h : d.Accounts sent kept) {job : ServerJob Nat ω}
    {rest : List (ServerJob Nat ω)} (hjobs : d.jobs = job :: rest) (hslot : job.slot? = none)
    (hslots : d'.slots <:+ d.slots) (hrest : d'.jobs = rest)
    (hlinks : d'.links.length = d.links.length) :
    d'.Accounts sent (kept ++ ([job].filterMap ServerJob.slot?)) := by
  have horder := h.order
  rw [hjobs, List.filterMap_cons_none hslot] at horder
  rw [List.filterMap_cons_none hslot, List.filterMap_nil, List.append_nil]
  refine ⟨hslots.trans h.window, ?_, hlinks ▸ h.clients⟩
  rw [hrest]
  exact horder

/-- A step of the server keeps the accounts. -/
theorem serve {output : List (SystemOutput ω)} (h : d.Accounts sent kept)
    (hids : (sent.map (·.2.id)).Nodup) (hserve : d.Serve d' output) (id : Uuid) :
    d'.Accounts sent
      (kept ++ ((d.serves (.serve id)).map (·.job)).filterMap ServerJob.slot?) := by
  cases hserve with
  | nothing hjobs =>
    rw [serves_of_nil hjobs, List.map_nil, List.filterMap_nil, List.append_nil]
    exact h
  | start id client rest hjobs =>
    rw [serves_of_cons hjobs]
    exact h.of_shorter hjobs rfl (List.nil_suffix) rfl (length_links_modifyClient ..)
  | fill id client rest hjobs =>
    have hkeep : (Window.keep d.slots ⟨id, .fillBuffer⟩ client : Window.Progress Nat ω) = _ :=
      Window.keep_of_new (h.new_of_nodup hids hjobs) client
    rw [serves_of_cons hjobs]
    refine ⟨?_, ?_, h.clients⟩
    · obtain ⟨before, hbefore⟩ := h.window
      rw [hkeep, ← hbefore, List.append_assoc]
      exact List.suffix_append _ _
    · have horder := h.order
      rw [hjobs] at horder
      rw [List.append_assoc]
      exact horder
  | underflow endpoint observer rest hjobs hslots =>
    rw [serves_of_cons hjobs]
    exact h.of_shorter hjobs rfl (List.suffix_refl _) rfl rfl
  | pair endpoint observer rest first last hjobs hslots =>
    rw [serves_of_cons hjobs]
    refine h.of_shorter hjobs rfl (List.nil_suffix) rfl ?_
    rw [length_links_modifyClient, length_links_modifyClient]
  | pushed endpoint observer rest first slots hjobs hslots hlength =>
    rw [serves_of_cons hjobs]
    refine h.of_shorter hjobs rfl ?_ rfl (length_links_modifyClient ..)
    rw [hslots]
    exact List.suffix_cons first slots
  | stop rest hjobs =>
    rw [serves_of_cons hjobs]
    exact h.of_shorter hjobs rfl (List.nil_suffix) rfl rfl
  | count rest hjobs =>
    rw [serves_of_cons hjobs]
    exact h.of_shorter hjobs rfl (List.suffix_refl _) rfl rfl

/-- A step of a client's task queue keeps the accounts. -/
theorem taskStep (h : d.Accounts sent kept) (client : Nat) (id : Uuid) :
    (d.taskStep client id).1.Accounts
      (sent ++ (d.taskStep client id).2.filterMap (SystemOutput.sent? id)) kept := by
  rcases d.taskStep_cases client id with
    htask | ⟨link, changed, commands, events, hlink, hturn, htask⟩
  · rw [htask, List.filterMap_nil, List.append_nil]
    exact h
  · have hclient : client < d.links.length := (List.getElem?_eq_some_iff.mp hlink).1
    rw [htask, sent_turn hturn.id_eq]
    refine ⟨h.window, ?_, ?_⟩
    · show (kept ++ (d.jobs ++ if link.connected then commands.map (ServerJob.handle · client)
        else []).filterMap ServerJob.slot?).Sublist _
      rw [List.filterMap_append, List.filterMap_append, ← List.append_assoc]
      apply h.order.append
      cases link.connected with
      | false => exact List.nil_sublist _
      | true =>
        rw [if_pos rfl, List.filterMap_map, List.filterMap_map]
        exact .refl _
    · intro p hp
      rw [length_links_modifyClient]
      rcases List.mem_append.mp hp with hp | hp
      · exact h.clients p hp
      · obtain ⟨command, _, rfl⟩ := List.mem_map.mp hp
        exact hclient

/-- A step keeps the accounts as long as identifiers are distinct. -/
theorem step (h : d.Accounts sent kept) (x : SystemStep ω)
    (hids : ((sent ++ x.sent (d.step x).2).map (·.2.id)).Nodup) :
    (d.step x).1.Accounts (sent ++ x.sent (d.step x).2)
      (kept ++ ((d.serves x).map (·.job)).filterMap ServerJob.slot?) := by
  have hpost {job : ServerJob Nat ω} (hslot : job.slot? = none) :
      (d.post job).Accounts (sent ++ []) (kept ++ []) := by
    refine h.of_same rfl ?_ rfl
    rw [Direct.post, List.filterMap_append, List.filterMap_cons_none hslot, List.filterMap_nil,
      List.append_nil]
  cases x with
  | start client => exact h.of_same rfl rfl (List.length_modify ..)
  | stop client => exact h.of_same rfl rfl (List.length_modify ..)
  | disconnect client => exact h.of_same rfl rfl (List.length_modify ..)
  | push name endpoint => exact hpost rfl
  | stopServer => exact hpost rfl
  | task client id =>
    have htask := h.taskStep client id
    rw [← List.append_nil kept] at htask
    exact htask
  | reply client =>
    rcases d.replyStep_cases client with hreply | ⟨link, reply, rest, _, _, hreply⟩
    · rw [Direct.step, hreply]
      exact h.of_same rfl rfl rfl
    · rw [Direct.step, hreply]
      exact h.of_same rfl rfl (List.length_modify ..)
  | serve id =>
    have hserve := h.serve ((List.append_nil sent) ▸ hids) d.serve_serveStep id
    rw [← List.append_nil sent] at hserve
    exact hserve

/-- The first step of a run keeps the accounts, and the rest of the run can go on from there. -/
theorem head (h : d.Accounts sent kept) {x : SystemStep ω} {rest : List (SystemStep ω)}
    (hids : ((sent ++ d.sent (x :: rest)).map (·.2.id)).Nodup) :
    (d.step x).1.Accounts (sent ++ x.sent (d.step x).2)
        (kept ++ ((d.serves x).map (·.job)).filterMap ServerJob.slot?) ∧
      (((sent ++ x.sent (d.step x).2) ++ (d.step x).1.sent rest).map (·.2.id)).Nodup := by
  rw [Direct.sent, watch, ← List.append_assoc] at hids
  refine ⟨h.step x ?_, hids⟩
  rw [List.map_append] at hids
  exact (List.nodup_append.mp hids).1

end Accounts

/-- A step runs at most one job, on the window as it is. -/
theorem serves_cons {d : Direct ω} {x : SystemStep ω} {first : Serving ω} {more : List (Serving ω)}
    (h : d.serves x = first :: more) : more = [] ∧ first.window = d.slots := by
  cases x with
  | serve id =>
    rw [serves] at h
    cases hjob : d.jobs.head? with
    | none =>
      rw [hjob] at h
      exact absurd h.symm (List.cons_ne_nil _ _)
    | some job =>
      rw [hjob] at h
      obtain ⟨rfl, rfl⟩ := List.cons.inj h
      exact ⟨rfl, rfl⟩
  | start | stop | disconnect | push | stopServer | task | reply =>
    exact absurd h.symm (List.cons_ne_nil _ _)

/-- Over a run, every job finds the newest of the slots kept open before it, each of which belongs
to the client that sent its command. -/
theorem run_windows {d : Direct ω} {sent : List (Nat × Command Action)} {kept : List (Slot Nat)}
    (h : d.Accounts sent kept) (steps : List (SystemStep ω))
    (hids : ((sent ++ d.sent steps).map (·.2.id)).Nodup) {before after : List (Serving ω)}
    {now : Serving ω} (hserved : d.served steps = before ++ now :: after) :
    now.window <:+ kept ++ (before.map (·.job)).filterMap ServerJob.slot? ∧
      ∀ slot ∈ now.window, (slot.handler, slot.command) ∈ sent ++ d.sent steps := by
  induction steps generalizing d sent kept before with
  | nil => exact absurd hserved.symm (List.append_ne_nil_of_right_ne_nil _ (List.cons_ne_nil _ _))
  | cons x rest ih =>
    obtain ⟨hnext, hrest⟩ := h.head hids
    rw [served, watch] at hserved
    rw [Direct.sent, watch, ← List.append_assoc]
    rcases hserves : d.serves x with _ | ⟨first, more⟩
    · rw [hserves, List.nil_append] at hserved
      rw [hserves] at hnext
      have hrun := ih hnext hrest hserved
      rwa [List.map_nil, List.filterMap_nil, List.append_nil] at hrun
    · obtain ⟨rfl, hwindow⟩ := serves_cons hserves
      rw [hserves, List.singleton_append] at hserved
      rw [hserves] at hnext
      rcases before with _ | ⟨found, before⟩
      · obtain ⟨rfl, _⟩ := List.cons.inj hserved
        rw [hwindow, List.map_nil, List.filterMap_nil, List.append_nil]
        refine ⟨h.window, ?_⟩
        intro slot hslot
        have hsent := h.sent_of_kept (h.window.subset hslot)
        exact List.mem_append_left _ (List.mem_append_left _ hsent)
      · obtain ⟨rfl, htail⟩ := List.cons.inj hserved
        have hrun := ih hnext hrest htail
        rw [List.append_assoc, ← List.filterMap_append, ← List.map_append] at hrun
        exact hrun

end Direct

end PacketTunnel.Ipc
