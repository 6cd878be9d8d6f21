import Mathlib.Data.List.Forall2
import Rdma.Proofs.Boundary.Record

/-!
# Walking a caller's list

A caller's nodes may be linked in any way: to a list, into one another, or round in a circle. The loop
over them has no bound but the number of nodes that it accepted (`Loops`), and it ends on every heap.
What it ends with is said by following the links (`Follows`): the items of a list that is short enough
and in which every node is well formed, or what is wrong with the first that is not.

* `walk_loops`, `Loops.unique` — the loop ends, and nowhere but where `walk` does;
* `Loops.traced`, `Follows.loops` — it goes along the links up to where it stops;
* `lists_walked` — send lists, receive lists, and the calls that post them.
-/

namespace Rdma.Boundary

variable {α β : Type}

/-! ## The loop -/

/-- From one pointer the links lead over the nodes at the addresses to the other pointer. -/
inductive Follows (heap : Heap α) : Option Nat → List Nat → Option Nat → Prop
  | here (p : Option Nat) : Follows heap p [] p
  | link {a : Nat} {rest : List Nat} {p : Option Nat} : Follows heap (heap a).next rest p →
      Follows heap (some a) (a :: rest) p

/-- With the items found so far, last one first, the loop stops at a pointer. -/
inductive Stops (heap : Heap α) (decode : α → Except ArgumentError β) (found : List β) :
    Option Nat → Except ArgumentError (List β) → Prop
  | atEnd : Stops heap decode found none (.ok found.reverse)
  | tooLong (a : Nat) : listLimit ≤ found.length →
      Stops heap decode found (some a) (.error .listTooLong)
  | malformed {a : Nat} {e : ArgumentError} : found.length < listLimit →
      decode (heap a).item = .error e → Stops heap decode found (some a) (.error e)

/-- The loop over a list: from a pointer, with the items found so far, it visits the nodes at the
addresses and ends with an outcome. -/
inductive Loops (heap : Heap α) (decode : α → Except ArgumentError β) :
    List β → Option Nat → List Nat → Except ArgumentError (List β) → Prop
  | stops {found : List β} {p : Option Nat} {outcome : Except ArgumentError (List β)} :
      Stops heap decode found p outcome → Loops heap decode found p p.toList outcome
  | goesOn {found : List β} {a : Nat} {b : β} {visited : List Nat}
      {outcome : Except ArgumentError (List β)} : found.length < listLimit →
      decode (heap a).item = .ok b → Loops heap decode (b :: found) (heap a).next visited outcome →
      Loops heap decode found (some a) (a :: visited) outcome

section Looping

variable {heap : Heap α} {decode : α → Except ArgumentError β} {found : List β}
  {p q : Option Nat} {addresses addresses' : List Nat}
  {outcome outcome' : Except ArgumentError (List β)}

theorem Follows.unique (h : Follows heap p addresses none) (h' : Follows heap p addresses' none) :
    addresses = addresses' := by
  induction addresses generalizing p addresses' with
  | nil =>
      cases h
      cases h'
      rfl
  | cons a rest ih =>
      cases h with
      | link hrest =>
          cases h' with
          | link hrest' => rw [ih hrest hrest']

theorem Stops.unique (h : Stops heap decode found p outcome)
    (h' : Stops heap decode found p outcome') : outcome = outcome' := by
  cases h with
  | atEnd => cases h'; rfl
  | tooLong a hlimit =>
      cases h' with
      | tooLong => rfl
      | malformed hroom => exact absurd hlimit (Nat.not_le.2 hroom)
  | malformed hroom herror =>
      cases h' with
      | tooLong _ hlimit => exact absurd hlimit (Nat.not_le.2 hroom)
      | malformed _ herror' => rw [Except.error.inj (herror.symm.trans herror')]

/-- Where the loop can go on it does not stop. -/
theorem Stops.not_next {a : Nat} {b : β} (h : Stops heap decode found (some a) outcome)
    (hroom : found.length < listLimit) (hok : decode (heap a).item = .ok b) : False := by
  cases h with
  | tooLong _ hlimit => exact absurd hlimit (Nat.not_le.2 hroom)
  | malformed _ herror =>
      rw [hok] at herror
      cases herror

/-- The loop ends in one way only. -/
theorem Loops.unique (h : Loops heap decode found p addresses outcome)
    (h' : Loops heap decode found p addresses' outcome') :
    addresses = addresses' ∧ outcome = outcome' := by
  induction h generalizing addresses' outcome' with
  | stops hstops =>
      cases h' with
      | stops hstops' => exact ⟨rfl, hstops.unique hstops'⟩
      | goesOn hroom hok => exact (hstops.not_next hroom hok).elim
  | goesOn hroom hok _ ih =>
      cases h' with
      | stops hstops => exact (hstops.not_next hroom hok).elim
      | goesOn _ hok' hrest' =>
          obtain rfl := Except.ok.inj (hok.symm.trans hok')
          obtain ⟨rfl, rfl⟩ := ih hrest'
          exact ⟨rfl, rfl⟩

/-- The loop ends where `walk` does, whose room is what the loop has left of its limit. -/
theorem walk_loops (room : Nat) (hroom : found.length + room = listLimit) (p : Option Nat) :
    ∃ visited, visited.length ≤ room + 1 ∧
      Loops heap decode found p visited (walk heap decode room found p) := by
  induction room generalizing found p with
  | zero =>
      cases p with
      | none => exact ⟨_, Nat.zero_le _, .stops .atEnd⟩
      | some a => exact ⟨_, Nat.le_refl _, .stops (.tooLong a (Nat.le_of_eq hroom.symm))⟩
  | succ room ih =>
      cases p with
      | none => exact ⟨_, Nat.zero_le _, .stops .atEnd⟩
      | some a =>
          have hleft : found.length < listLimit := by omega
          simp only [walk]
          cases hdecode : decode (heap a).item with
          | error e => exact ⟨_, Nat.le_add_left 1 _, .stops (.malformed hleft hdecode)⟩
          | ok b =>
              have hnext : (b :: found).length + room = listLimit := by
                rw [List.length_cons]
                omega
              obtain ⟨visited, hvisited, hloops⟩ := ih hnext (heap a).next
              exact ⟨a :: visited, Nat.succ_le_succ hvisited, .goesOn hleft hdecode hloops⟩

/-- The loop goes along the links, over nodes that it can decode, up to where it stops. -/
theorem Loops.traced (h : Loops heap decode found p addresses outcome)
    (hfound : found.length ≤ listLimit) :
    ∃ before decoded q, Follows heap p before q ∧
      List.Forall₂ (fun a b => decode (heap a).item = .ok b) before decoded ∧
      found.length + before.length ≤ listLimit ∧
      Stops heap decode (decoded.reverse ++ found) q outcome := by
  induction h with
  | @stops _ p _ hstops => exact ⟨[], [], p, .here p, .nil, hfound, hstops⟩
  | @goesOn _ a b _ _ hroom hok _ ih =>
      obtain ⟨before, decoded, q, hfollows, hdecoded, hlength, hstops⟩ := ih hroom
      refine ⟨a :: before, b :: decoded, q, .link hfollows, .cons hok hdecoded, ?_, ?_⟩
      · rw [List.length_cons] at hlength ⊢
        omega
      · rwa [List.reverse_cons, List.append_assoc]

/-- The loop gets to where the links lead, if it can decode the nodes on the way. -/
theorem Follows.loops {before : List Nat} {decoded : List β} (h : Follows heap p before q)
    (hdecoded : List.Forall₂ (fun a b => decode (heap a).item = .ok b) before decoded)
    (hlength : found.length + before.length ≤ listLimit)
    (hloops : Loops heap decode (decoded.reverse ++ found) q addresses outcome) :
    Loops heap decode found p (before ++ addresses) outcome := by
  induction h generalizing found decoded with
  | here =>
      cases hdecoded
      exact hloops
  | link _ ih =>
      cases hdecoded with
      | cons hok hdecoded =>
          rw [List.length_cons] at hlength
          refine .goesOn (by omega) hok (ih hdecoded ?_ ?_)
          · rw [List.length_cons]
            omega
          · rwa [List.reverse_cons, List.append_assoc] at hloops

end Looping

/-! ## Lists -/

section Lists

variable {heap : Heap α} {decode : α → Except ArgumentError β} {head : Option Nat}

theorem listFrom_loops (heap : Heap α) (decode : α → Except ArgumentError β) (head : Option Nat) :
    ∃ visited, visited.length ≤ listLimit + 1 ∧
      Loops heap decode [] head visited (listFrom decode heap head) :=
  walk_loops listLimit (Nat.zero_add _) head

/-- A list comes to where the links lead, over nodes that can be decoded, until the loop stops. -/
theorem listFrom_eq_iff {outcome : Except ArgumentError (List β)} :
    listFrom decode heap head = outcome ↔
      ∃ before decoded q, Follows heap head before q ∧
        List.Forall₂ (fun a b => decode (heap a).item = .ok b) before decoded ∧
        before.length ≤ listLimit ∧ Stops heap decode decoded.reverse q outcome := by
  obtain ⟨_, -, hloops⟩ := listFrom_loops heap decode head
  constructor
  · rintro rfl
    obtain ⟨before, decoded, q, hfollows, hdecoded, hlength, hstops⟩ :=
      hloops.traced (Nat.zero_le _)
    rw [List.length_nil, Nat.zero_add] at hlength
    rw [List.append_nil] at hstops
    exact ⟨before, decoded, q, hfollows, hdecoded, hlength, hstops⟩
  · rintro ⟨before, decoded, q, hfollows, hdecoded, hlength, hstops⟩
    rw [← List.append_nil decoded.reverse] at hstops
    have hloops' := hfollows.loops hdecoded (by rwa [List.length_nil, Nat.zero_add]) (.stops hstops)
    exact (hloops.unique hloops').2

/-- The items of a list are those of its nodes, in the order of the links. -/
theorem listFrom_eq_ok {items : List β} :
    listFrom decode heap head = .ok items ↔
      ∃ addresses, Follows heap head addresses none ∧ addresses.length ≤ listLimit ∧
        List.Forall₂ (fun a b => decode (heap a).item = .ok b) addresses items := by
  rw [listFrom_eq_iff]
  constructor
  · rintro ⟨before, decoded, q, hfollows, hdecoded, hlength, hstops⟩
    generalize houtcome : (Except.ok items : Except ArgumentError (List β)) = outcome at hstops
    cases hstops with
    | atEnd =>
        rw [List.reverse_reverse, Except.ok.injEq] at houtcome
        exact ⟨before, hfollows, hlength, houtcome ▸ hdecoded⟩
    | tooLong | malformed => cases houtcome
  · rintro ⟨addresses, hfollows, hlength, hdecoded⟩
    have hend : Stops heap decode items.reverse none (.ok items.reverse.reverse) := .atEnd
    rw [List.reverse_reverse] at hend
    exact ⟨addresses, items, none, hfollows, hdecoded, hlength, hend⟩

/-- A list is refused for its first node that cannot be decoded, or because it has too many nodes that
can. -/
theorem listFrom_eq_error {e : ArgumentError} :
    listFrom decode heap head = .error e ↔
      (∃ before decoded a, Follows heap head before (some a) ∧
        List.Forall₂ (fun a b => decode (heap a).item = .ok b) before decoded ∧
        before.length < listLimit ∧ decode (heap a).item = .error e) ∨
      (e = .listTooLong ∧ ∃ before decoded a, Follows heap head before (some a) ∧
        List.Forall₂ (fun a b => decode (heap a).item = .ok b) before decoded ∧
        before.length = listLimit) := by
  rw [listFrom_eq_iff]
  constructor
  · rintro ⟨before, decoded, q, hfollows, hdecoded, hlength, hstops⟩
    have hsame : decoded.reverse.length = before.length := by
      rw [List.length_reverse, hdecoded.length_eq]
    cases hstops with
    | tooLong a hlimit =>
        exact .inr ⟨rfl, before, decoded, a, hfollows, hdecoded, by omega⟩
    | @malformed a _ hroom herror =>
        exact .inl ⟨before, decoded, a, hfollows, hdecoded, by omega, herror⟩
  · rintro (⟨before, decoded, a, hfollows, hdecoded, hroom, herror⟩ |
      ⟨rfl, before, decoded, a, hfollows, hdecoded, hlength⟩)
    all_goals
      have hsame : decoded.reverse.length = before.length := by
        rw [List.length_reverse, hdecoded.length_eq]
    · exact ⟨before, decoded, _, hfollows, hdecoded, Nat.le_of_lt hroom,
        .malformed (by omega) herror⟩
    · exact ⟨before, decoded, _, hfollows, hdecoded, Nat.le_of_eq hlength,
        .tooLong a (by omega)⟩

end Lists

/-! ## Nodes -/

/-- The number of entries is not negative, and there is an array if there are entries. -/
structure RawSges.WellFormed (s : RawSges) : Prop where
  nonneg : 0 ≤ s.count
  array : 0 < s.count → s.entries ≠ none

/-- The entries that a well-formed list has. -/
def RawSges.listed (s : RawSges) : List Sge := (s.entries.getD []).take s.count.toInt.toNat

theorem RawSges.decode_wellFormed {s : RawSges} (h : s.WellFormed) : s.decode = .ok s.listed := by
  have hnonneg : ¬ s.count < 0 := Int32.not_lt.2 h.nonneg
  unfold RawSges.decode
  by_cases hzero : s.count = 0
  · rw [if_pos hzero, RawSges.listed, hzero]
    rfl
  · have hpos : 0 < s.count := by
      have hle := Int32.le_iff_toInt_le.1 h.nonneg
      have hne : s.count.toInt ≠ (0 : Int32).toInt := fun heq => hzero (Int32.toInt_inj.1 heq)
      exact Int32.lt_iff_toInt_lt.2 (by omega)
    obtain ⟨entries, hentries⟩ := Option.ne_none_iff_exists'.1 (h.array hpos)
    rw [if_neg hzero, if_neg hnonneg, RawSges.listed, hentries]
    rfl

/-- All that can be wrong with a list of entries is a negative count, or a positive one with no
list. -/
theorem RawSges.decode_malformed {s : RawSges} (h : ¬ s.WellFormed) :
    s.decode = .error .badSgeList := by
  unfold RawSges.decode
  split
  next hzero =>
    refine absurd ⟨?_, fun hpos => ?_⟩ h
    · rw [hzero]
      decide
    · rw [hzero] at hpos
      exact absurd hpos (by decide)
  next =>
    split
    next => rfl
    next hnonneg =>
      cases hentries : s.entries with
      | none => rfl
      | some entries =>
          refine absurd ⟨Int32.not_lt.1 hnonneg, fun _ hnone => ?_⟩ h
          rw [hentries] at hnone
          cases hnone

/-- The operation of a send is known, and its entries are well formed. -/
structure RawSend.WellFormed (r : RawSend) : Prop where
  opcode : ∃ op : SendOpcode, op.code = r.opcode
  sges : r.sges.WellFormed

/-- A request has what a send has. -/
structure RawSend.Carries (r : RawSend) (request : SendRequest) : Prop where
  wrId : request.wrId = r.wrId
  opcode : request.opcode.code = r.opcode
  sges : request.sges = r.sges.listed
  flags : request.flags = r.flags
  imm : request.imm = r.imm
  remote : request.remote = r.remote
  compareAdd : request.compareAdd = r.compareAdd
  swap : request.swap = r.swap

/-- What is wrong with a send. The operation is looked at before the entries. -/
inductive RawSend.Malformed (r : RawSend) : ArgumentError → Prop
  | opcode : (∀ op : SendOpcode, op.code ≠ r.opcode) → Malformed r .unknownSendOpcode
  | sges (op : SendOpcode) : op.code = r.opcode → ¬ r.sges.WellFormed → Malformed r .badSgeList

/-- A request has what a receive has. -/
structure RawRecv.Carries (r : RawRecv) (request : RecvRequest) : Prop where
  wrId : request.wrId = r.wrId
  sges : request.sges = r.sges.listed

/-- What is wrong with a receive. -/
inductive RawRecv.Malformed (r : RawRecv) : ArgumentError → Prop
  | sges : ¬ r.sges.WellFormed → Malformed r .badSgeList

/-- How items are told from nodes: a node is well formed, and what it carries is an item, or it is
malformed in one way. -/
structure Decodes (decode : α → Except ArgumentError β) (wellFormed : α → Prop)
    (carries : α → β → Prop) (malformed : α → ArgumentError → Prop) : Prop where
  accepted : ∀ {raw}, wellFormed raw → ∃ item, decode raw = .ok item ∧
    ∀ item', carries raw item' ↔ item' = item
  refused : ∀ {raw}, ¬ wellFormed raw → ∃ e, decode raw = .error e ∧
    ∀ e', malformed raw e' ↔ e' = e
  wellFormed_not : ∀ {raw e}, malformed raw e → ¬ wellFormed raw

/-- A send request is decoded with its opcode before its entries, so of the two faults an unknown
opcode is the one reported. -/
theorem sends_decoded :
    Decodes RawSend.decode RawSend.WellFormed RawSend.Carries RawSend.Malformed where
  accepted := by
    rintro raw ⟨⟨op, hop⟩, hsges⟩
    have hknown : SendOpcode.ofCode? raw.opcode = some op := hop ▸ SendOpcode.ofCode?_code op
    have hdecode : raw.decode = .ok
        { wrId := raw.wrId, opcode := op, sges := raw.sges.listed, flags := raw.flags
          imm := raw.imm, remote := raw.remote, compareAdd := raw.compareAdd, swap := raw.swap } := by
      simp only [RawSend.decode, hknown, RawSges.decode_wellFormed hsges]
      rfl
    refine ⟨_, hdecode, fun request => ⟨fun hcarries => ?_, ?_⟩⟩
    · obtain ⟨wrId, opcode, sges, flags, imm, remote, compareAdd, swap⟩ := request
      obtain ⟨rfl, hcode, rfl, rfl, rfl, rfl, rfl, rfl⟩ := hcarries
      -- one code belongs to one opcode
      have hsame : some op = some opcode := by
        rw [← hknown, ← hcode]
        exact SendOpcode.ofCode?_code opcode
      rw [Option.some.inj hsame]
    · rintro rfl
      exact ⟨rfl, hop, rfl, rfl, rfl, rfl, rfl, rfl⟩
  refused := by
    intro raw hbad
    by_cases hop : ∃ op : SendOpcode, op.code = raw.opcode
    · obtain ⟨op, hop⟩ := hop
      have hknown : SendOpcode.ofCode? raw.opcode = some op := hop ▸ SendOpcode.ofCode?_code op
      have hsges : ¬ raw.sges.WellFormed := fun hsges => hbad ⟨⟨op, hop⟩, hsges⟩
      refine ⟨.badSgeList, ?_, fun e => ⟨?_, ?_⟩⟩
      · simp only [RawSend.decode, hknown, RawSges.decode_malformed hsges]
        rfl
      · rintro (hunknown | _)
        · exact absurd hop (hunknown op)
        · rfl
      · rintro rfl
        exact .sges op hop hsges
    · have hunknown : ∀ op : SendOpcode, op.code ≠ raw.opcode := fun op hcode => hop ⟨op, hcode⟩
      have hnone : SendOpcode.ofCode? raw.opcode = none :=
        Option.eq_none_iff_forall_not_mem.2 fun op hsome =>
          hunknown op (SendOpcode.code_of_ofCode? hsome)
      refine ⟨.unknownSendOpcode, ?_, fun e => ⟨?_, ?_⟩⟩
      · simp only [RawSend.decode, hnone]
        rfl
      · rintro (_ | ⟨op, hcode, -⟩)
        · rfl
        · exact absurd hcode (hunknown op)
      · rintro rfl
        exact .opcode hunknown
  wellFormed_not := by
    rintro raw e (hunknown | ⟨op, hcode, hsges⟩) ⟨⟨op', hop⟩, hwell⟩
    · exact hunknown op' hop
    · exact hsges hwell

/-- A receive request has no opcode, and so one fault only. -/
theorem recvs_decoded :
    Decodes RawRecv.decode (fun raw => raw.sges.WellFormed) RawRecv.Carries RawRecv.Malformed where
  accepted := by
    intro raw hsges
    have hdecode : raw.decode = .ok { wrId := raw.wrId, sges := raw.sges.listed } := by
      simp only [RawRecv.decode, RawSges.decode_wellFormed hsges]
      rfl
    refine ⟨_, hdecode, fun request => ⟨fun hcarries => ?_, ?_⟩⟩
    · obtain ⟨wrId, sges⟩ := request
      obtain ⟨rfl, rfl⟩ := hcarries
      rfl
    · rintro rfl
      exact ⟨rfl, rfl⟩
  refused := by
    intro raw hsges
    refine ⟨.badSgeList, ?_, fun e => ⟨?_, ?_⟩⟩
    · simp only [RawRecv.decode, RawSges.decode_malformed hsges]
      rfl
    · rintro ⟨-⟩
      rfl
    · rintro rfl
      exact .sges hsges
  wellFormed_not := by
    rintro raw e ⟨hsges⟩
    exact hsges

namespace Decodes

variable {decode : α → Except ArgumentError β} {wellFormed : α → Prop} {carries : α → β → Prop}
  {malformed : α → ArgumentError → Prop} {raw : α}

theorem ok_iff (h : Decodes decode wellFormed carries malformed) {item : β} :
    decode raw = .ok item ↔ wellFormed raw ∧ carries raw item := by
  by_cases hwell : wellFormed raw
  · obtain ⟨item', hok, hcarries⟩ := h.accepted hwell
    rw [hok, hcarries, Except.ok.injEq]
    exact ⟨fun heq => ⟨hwell, heq.symm⟩, fun heq => heq.2.symm⟩
  · obtain ⟨e, herror, -⟩ := h.refused hwell
    rw [herror]
    exact ⟨nofun, fun hok => absurd hok.1 hwell⟩

theorem error_iff (h : Decodes decode wellFormed carries malformed) {e : ArgumentError} :
    decode raw = .error e ↔ malformed raw e := by
  by_cases hwell : wellFormed raw
  · obtain ⟨item, hok, -⟩ := h.accepted hwell
    rw [hok]
    exact ⟨nofun, fun hbad => absurd hwell (h.wellFormed_not hbad)⟩
  · obtain ⟨e', herror, hmalformed⟩ := h.refused hwell
    rw [herror, hmalformed, Except.error.injEq]
    exact eq_comm

/-- Nodes are all well formed just if there are items for all. -/
theorem forall_wellFormed (h : Decodes decode wellFormed carries malformed) {heap : Heap α}
    {addresses : List Nat} :
    (∀ a ∈ addresses, wellFormed (heap a).item) ↔
      ∃ items, List.Forall₂ (fun a b => decode (heap a).item = .ok b) addresses items := by
  induction addresses with
  | nil => exact ⟨fun _ => ⟨[], .nil⟩, fun _ a ha => absurd ha (List.not_mem_nil)⟩
  | cons a rest ih =>
      rw [List.forall_mem_cons, ih]
      constructor
      · rintro ⟨hwell, items, hitems⟩
        obtain ⟨item, hok, -⟩ := h.accepted hwell
        exact ⟨item :: items, .cons hok hitems⟩
      · rintro ⟨_, hitems⟩
        cases hitems with
        | cons hok hitems => exact ⟨(h.ok_iff.1 hok).1, _, hitems⟩

end Decodes

/-! ## The walkers -/

/-- How a list is walked: when the walk ends, with what, and for what reason. -/
structure Walks (decode : α → Except ArgumentError β) (wellFormed : α → Prop)
    (carries : α → β → Prop) (malformed : α → ArgumentError → Prop) (heap : Heap α)
    (head : Option Nat) (result : Except ArgumentError (List β)) : Prop where
  /-- The loop ends, with this result alone, and visits at most one node more than it accepts. -/
  ends : ∃ visited, visited.length ≤ listLimit + 1 ∧ ∀ visited' outcome,
    Loops heap decode [] head visited' outcome ↔ visited' = visited ∧ outcome = result
  /-- A list is accepted just if the links come to an end in time, over well-formed nodes only. -/
  accepts : (∃ items, result = .ok items) ↔ ∃ addresses, Follows heap head addresses none ∧
    addresses.length ≤ listLimit ∧ ∀ a ∈ addresses, wellFormed (heap a).item
  /-- Its items are carried over from the nodes, in the order of the links. -/
  carried : ∀ items addresses, result = .ok items → Follows heap head addresses none →
    List.Forall₂ (fun a item => carries (heap a).item item) addresses items
  /-- Otherwise the error is about the first node that is malformed, or, where none is before the
  limit, about the length. -/
  refuses : ∀ e, result = .error e ↔
    (∃ before a, Follows heap head before (some a) ∧ before.length < listLimit ∧
      (∀ b ∈ before, wellFormed (heap b).item) ∧ malformed (heap a).item e) ∨
    (e = .listTooLong ∧ ∃ before a, Follows heap head before (some a) ∧
      before.length = listLimit ∧ ∀ b ∈ before, wellFormed (heap b).item)

/-- What decoding says of one request, walking says of a list: the first that is malformed decides
the error, unless the list is too long before it. -/
theorem Decodes.walks {decode : α → Except ArgumentError β} {wellFormed : α → Prop}
    {carries : α → β → Prop} {malformed : α → ArgumentError → Prop}
    (h : Decodes decode wellFormed carries malformed) (heap : Heap α) (head : Option Nat) :
    Walks decode wellFormed carries malformed heap head (listFrom decode heap head) where
  ends := by
    obtain ⟨visited, hvisited, hloops⟩ := listFrom_loops heap decode head
    refine ⟨visited, hvisited, fun visited' outcome => ⟨fun h' => h'.unique hloops, ?_⟩⟩
    rintro ⟨rfl, rfl⟩
    exact hloops
  accepts := by
    constructor
    · rintro ⟨items, hok⟩
      obtain ⟨addresses, hfollows, hlength, hitems⟩ := listFrom_eq_ok.1 hok
      exact ⟨addresses, hfollows, hlength, h.forall_wellFormed.2 ⟨items, hitems⟩⟩
    · rintro ⟨addresses, hfollows, hlength, hwell⟩
      obtain ⟨items, hitems⟩ := h.forall_wellFormed.1 hwell
      exact ⟨items, listFrom_eq_ok.2 ⟨addresses, hfollows, hlength, hitems⟩⟩
  carried := by
    intro items addresses hok hfollows
    obtain ⟨addresses', hfollows', -, hitems⟩ := listFrom_eq_ok.1 hok
    obtain rfl := hfollows.unique hfollows'
    exact hitems.imp fun _ _ hdecode => (h.ok_iff.1 hdecode).2
  refuses := by
    intro e
    rw [listFrom_eq_error]
    constructor
    · rintro (⟨before, decoded, a, hfollows, hdecoded, hlength, herror⟩ |
        ⟨rfl, before, decoded, a, hfollows, hdecoded, hlength⟩)
      · exact .inl ⟨before, a, hfollows, hlength, h.forall_wellFormed.2 ⟨decoded, hdecoded⟩,
          h.error_iff.1 herror⟩
      · exact .inr ⟨rfl, before, a, hfollows, hlength, h.forall_wellFormed.2 ⟨decoded, hdecoded⟩⟩
    · rintro (⟨before, a, hfollows, hlength, hwell, hbad⟩ |
        ⟨rfl, before, a, hfollows, hlength, hwell⟩)
      all_goals obtain ⟨decoded, hdecoded⟩ := h.forall_wellFormed.1 hwell
      · exact .inl ⟨before, decoded, a, hfollows, hdecoded, hlength, h.error_iff.2 hbad⟩
      · exact .inr ⟨rfl, before, decoded, a, hfollows, hdecoded, hlength⟩

/-! ## The calls -/

/-- A call ends with an error about its arguments and does not reach the library, of which not even
the journal changes before the error is reported. -/
def Operation.Refuses (op : Operation α) (what : ArgumentError) : Prop :=
  ∀ env lib, op.call env lib = (.error (.invalidArgument what), lib) ∧
    ∀ record, lib.Untouched (op.make env record lib).2

theorem refuses_of_asVerb {op : Operation α} {what : ArgumentError} (h : op.asVerb = .error what) :
    op.Refuses what := by
  intro env lib
  refine ⟨?_, fun record => (make_refused h env record lib).2⟩
  rw [call_eq, h]
  rfl

/-- For every heap and head, the walkers of send and receive lists end, accept the well-formed lists,
and otherwise name what is wrong first. A call that posts what they refuse leaves the library as it
was. -/
theorem lists_walked (sends : Heap RawSend) (recvs : Heap RawRecv) (head : Option Nat) :
    listLimit = 2 ^ 16 ∧
      Walks RawSend.decode RawSend.WellFormed RawSend.Carries RawSend.Malformed sends head
        (sendList sends head) ∧
      Walks RawRecv.decode (fun raw => raw.sges.WellFormed) RawRecv.Carries RawRecv.Malformed recvs
        head (recvList recvs head) ∧
      (∀ e, sendList sends head = .error e →
        ∀ qp, (Operation.postSend qp sends head).Refuses e) ∧
      (∀ e, recvList recvs head = .error e →
        (∀ qp, (Operation.postRecv qp recvs head).Refuses e) ∧
          ∀ srq, (Operation.postSrqRecv srq recvs head).Refuses e) := by
  refine ⟨rfl, sends_decoded.walks sends head, recvs_decoded.walks recvs head, fun e herror qp => ?_,
    fun e herror => ⟨fun qp => ?_, fun srq => ?_⟩⟩
  all_goals
    apply refuses_of_asVerb
    simp only [Operation.asVerb, herror]
    rfl

/-! A node that is its own successor, of which every request is well formed. -/

/-- Memory in which every node links to the first one. -/
def circle (item : α) : Heap α := fun _ => { item, next := some 0 }

theorem circle_follows (item : α) (n : Nat) :
    Follows (circle item) (some 0) (List.replicate n 0) (some 0) := by
  induction n with
  | zero => exact .here _
  | succ n ih =>
      rw [List.replicate_succ]
      exact .link ih

/-- Circles are cut off, and are not posted. -/
theorem circles_refused :
    sendList (circle {}) (some 0) = .error .listTooLong ∧
      recvList (circle {}) (some 0) = .error .listTooLong ∧
      (Operation.postSend .null (circle {}) (some 0)).Refuses .listTooLong ∧
      (Operation.postRecv .null (circle {}) (some 0)).Refuses .listTooLong ∧
      (Operation.postSrqRecv .null (circle {}) (some 0)).Refuses .listTooLong := by
  obtain ⟨-, hsends, hrecvs, hposts, hreceives⟩ :=
    lists_walked (circle {}) (circle {}) (some 0)
  have hempty : RawSges.WellFormed {} := ⟨by decide, by decide⟩
  have hsend : sendList (circle {}) (some 0) = .error .listTooLong :=
    (hsends.refuses _).2 (.inr ⟨rfl, _, 0, circle_follows _ listLimit, List.length_replicate,
      fun _ _ => ⟨⟨.send, rfl⟩, hempty⟩⟩)
  have hrecv : recvList (circle {}) (some 0) = .error .listTooLong :=
    (hrecvs.refuses _).2 (.inr ⟨rfl, _, 0, circle_follows _ listLimit, List.length_replicate,
      fun _ _ => hempty⟩)
  exact ⟨hsend, hrecv, hposts _ hsend _, (hreceives _ hrecv).1 _, (hreceives _ hrecv).2 _⟩

end Rdma.Boundary
