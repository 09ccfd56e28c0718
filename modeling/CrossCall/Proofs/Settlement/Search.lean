import Mathlib
import CrossCall.Proofs.Message.RoundTrip
import CrossCall.Proofs.Settlement.Snapshot
import CrossCall.Settlement.Claim

/-!
# Searching for a posted message

A reward is claimed for a message that an outbox posted, and the source chain is searched for the log
that posted it. The node is asked for the logs of the outboxes; it takes an empty list of addresses to
mean every address. So a search with outboxes finds the first log by one of them, and a search without
outboxes, which ought to find nothing, takes a log by anybody.

## Main definitions

* `Environment.Tells` — a node tells the logs of its chain that are asked for, in order
* `Log.Reports` — a log reports a message in the blocks that are searched
* `PostedBy` — the first log by an outbox that reports a message is that of a given one
* `SearchMeets` — the result of a search is about the outboxes that were given

## Main results

* `mem_ascending` — a filter is for the outboxes that were given
* `searchResult_eq` — a search takes the first log that its filter lets through
* `searchMeets_iff` — its result is about the given outboxes unless there are none and the chain holds
  a log that reports the message
-/

namespace CrossCall

variable {χ σ : Type}

/-! ### The filter -/

theorem mem_insertAscending {a b : Address} {sorted : List Address} :
    b ∈ insertAscending a sorted ↔ b = a ∨ b ∈ sorted := by
  induction sorted with
  | nil => simp [insertAscending]
  | cons c rest ih =>
    rw [insertAscending]
    split
    · simp
    · split
      next heq =>
        subst heq
        simp
      next => rw [List.mem_cons, ih, List.mem_cons, or_left_comm]

theorem mem_foldl_insertAscending {b : Address} {addresses sorted : List Address} :
    b ∈ addresses.foldl (fun sorted a => insertAscending a sorted) sorted ↔
      b ∈ addresses ∨ b ∈ sorted := by
  induction addresses generalizing sorted with
  | nil => simp
  | cons a addresses ih =>
    rw [List.foldl_cons, ih, mem_insertAscending, List.mem_cons, or_left_comm, or_assoc]

@[simp] theorem mem_ascending {a : Address} {addresses : List Address} :
    a ∈ ascending addresses ↔ a ∈ addresses := by
  simp [ascending, mem_foldl_insertAscending]

@[simp] theorem ascending_eq_nil_iff {addresses : List Address} :
    ascending addresses = [] ↔ addresses = [] := by
  simp [List.eq_nil_iff_forall_not_mem]

/-- A log reports a message, and it is of one of the blocks from the given one on, or of a block that
has no number yet. -/
def Log.Reports (log : Log) (messageId : Word) (fromBlock : BitVec 64) : Prop :=
  log.topics[0]? = some PostedMessage.event.signature ∧ log.topics[1]? = some messageId ∧
    log.blockNumber.all (fromBlock ≤ ·)

instance (log : Log) (messageId : Word) (fromBlock : BitVec 64) :
    Decidable (log.Reports messageId fromBlock) :=
  inferInstanceAs (Decidable (_ ∧ _ ∧ _))

/-- The filter lets the logs of the outboxes through, or those of everybody if there are none. -/
theorem matches_postedMessageFilter_iff {outboxes : List Address} {messageId : Word}
    {fromBlock : BitVec 64} {log : Log} :
    (postedMessageFilter outboxes messageId fromBlock).Matches log ↔
      (outboxes = [] ∨ log.address ∈ outboxes) ∧ log.Reports messageId fromBlock := by
  have hcovers : (postedMessageFilter outboxes messageId fromBlock).covers = (fromBlock ≤ ·) := by
    funext n
    simp [LogFilter.covers, postedMessageFilter]
  rw [LogFilter.Matches, hcovers, Log.Reports]
  simp [postedMessageFilter, List.zipIdx_cons, Option.any_eq_true, and_assoc]

/-! ### The search -/

/-- A node tells the logs of its chain that are asked for, in the order of the chain. -/
def Environment.Tells (env : Environment χ σ) (node : χ) (history : List Log) : Prop :=
  ∀ s f, (env.answer s node (.logs f)).1 = .ok (history.filter fun log => f.Matches log)

/-- The result of a search. -/
def searchResult (env : Environment χ σ) (s : σ) (node : χ) (outboxes : List Address)
    (messageId : Word) (fromBlock : BitVec 64) : Except ClaimError PostedMessage :=
  ((findPostedMessage node outboxes messageId fromBlock).run.run env s).1

/-- The first log by one of the outboxes that reports a message is that of `m`. -/
def PostedBy (outboxes : List Address) (messageId : Word) (fromBlock : BitVec 64)
    (history : List Log) (m : PostedMessage) : Prop :=
  ∃ before log after, history = before ++ log :: after ∧ log.address ∈ outboxes ∧
    log.Reports messageId fromBlock ∧ PostedMessage.decodeLog log = .ok m ∧ m.id = messageId ∧
    ∀ earlier ∈ before, ¬ (earlier.address ∈ outboxes ∧ earlier.Reports messageId fromBlock)

/-- The result of a search is about the outboxes that were given. -/
structure SearchMeets (outboxes : List Address) (messageId : Word) (fromBlock : BitVec 64)
    (history : List Log) (result : Except ClaimError PostedMessage) : Prop where
  /-- A message that is found is the first that an outbox posted. -/
  found : ∀ m, result = .ok m → PostedBy outboxes messageId fromBlock history m
  /-- If no outbox posted it, it is not found. -/
  notFound : (∀ log ∈ history, log.address ∈ outboxes → ¬ log.Reports messageId fromBlock) →
    result = .error (.messageNotFound messageId)

theorem PostedMessage.id_of_decodeLog {log : Log} {m : PostedMessage} (h : decodeLog log = .ok m) :
    log.topics[1]? = some m.id := by
  rw [decodeLog] at h
  rcases hevent : event.decode log.topics log.data with _ | ⟨indexed, vs⟩
  · simp [hevent] at h
  · obtain ⟨htopics, hlength, -⟩ := Abi.Event.decode_eq_ok_iff.mp hevent
    obtain ⟨id, rfl⟩ := List.length_eq_one_iff.mp hlength
    simp only [hevent, Except.ok.injEq] at h
    subst h
    rw [htopics]
    rfl

section

variable {env : Environment χ σ} {node : χ} {history : List Log}

/-- The search takes the first log that the filter lets through. -/
theorem searchResult_eq (h : env.Tells node history) (s : σ) (outboxes : List Address)
    (messageId : Word) (fromBlock : BitVec 64) :
    searchResult env s node outboxes messageId fromBlock =
      match history.find? fun log =>
        (outboxes = [] ∨ log.address ∈ outboxes) ∧ log.Reports messageId fromBlock with
      | none => .error (.messageNotFound messageId)
      | some log => (PostedMessage.decodeLog log).mapError .decode := by
  have hlogs : (env.answer s node (.logs (postedMessageFilter outboxes messageId fromBlock))).1 =
      .ok (history.filter fun log =>
        (outboxes = [] ∨ log.address ∈ outboxes) ∧ log.Reports messageId fromBlock) := by
    simpa only [matches_postedMessageFilter_iff] using
      h s (postedMessageFilter outboxes messageId fromBlock)
  change ((findPostedMessage node outboxes messageId fromBlock).run.talk env s).1 = _
  rw [findPostedMessage, Session.talk_bind_of_ok _ (Session.talk_query _ (Prod.ext hlogs rfl))]
  simp only [Session.after, List.head?_filter]
  cases history.find? _ with
  | none => rfl
  | some log =>
    dsimp only
    cases PostedMessage.decodeLog log <;> rfl

/-- A search of a chain that holds no log of the message does not find it. -/
theorem SearchMeets.of_forall_not_reports {outboxes : List Address} {messageId : Word}
    {fromBlock : BitVec 64} :
    SearchMeets outboxes messageId fromBlock history (.error (.messageNotFound messageId)) where
  found := fun _ h => by cases h
  notFound := fun _ => rfl

/-- The first log by an outbox is one that a search among the outboxes may take. -/
theorem SearchMeets.of_find?_eq_some {outboxes : List Address} {messageId : Word}
    {fromBlock : BitVec 64} {log : Log}
    (h : history.find? (fun log => log.address ∈ outboxes ∧ log.Reports messageId fromBlock) =
      some log) :
    SearchMeets outboxes messageId fromBlock history
      ((PostedMessage.decodeLog log).mapError .decode) := by
  obtain ⟨hlog, before, rest, rfl, hbefore⟩ := List.find?_eq_some_iff_append.mp h
  obtain ⟨haddress, hreports⟩ : log.address ∈ outboxes ∧ log.Reports messageId fromBlock := by
    simpa using hlog
  constructor
  · intro m hm
    have hdecode : PostedMessage.decodeLog log = .ok m := mapError_eq_ok_iff.mp hm
    have hid : some m.id = some messageId := (PostedMessage.id_of_decodeLog hdecode).symm.trans
      hreports.2.1
    exact ⟨before, log, rest, rfl, haddress, hreports, hdecode, Option.some.inj hid,
      fun earlier hearlier => by simpa [← not_and_or] using hbefore earlier hearlier⟩
  · intro hnone
    exact absurd hreports (hnone log (by simp) haddress)

/-- Without outboxes the filter lets a log by anybody through, and whatever its data is, the result is
wrong. -/
theorem not_searchMeets_of_reports (h : env.Tells node history) (s : σ) {messageId : Word}
    {fromBlock : BitVec 64} {log : Log} (hlog : log ∈ history)
    (hreports : log.Reports messageId fromBlock) :
    ¬ SearchMeets [] messageId fromBlock history
      (searchResult env s node [] messageId fromBlock) := by
  rintro ⟨hfound, hnotFound⟩
  obtain ⟨first, hfirst⟩ : ∃ first, (history.find? fun log =>
      (([] : List Address) = [] ∨ log.address ∈ []) ∧ log.Reports messageId fromBlock) =
        some first :=
    Option.isSome_iff_exists.mp (List.find?_isSome.mpr ⟨log, hlog, by simpa using hreports⟩)
  have hresult : searchResult env s node [] messageId fromBlock =
      (PostedMessage.decodeLog first).mapError .decode := by
    rw [searchResult_eq h, hfirst]
  rw [hresult] at hfound hnotFound
  -- A log that cannot be read breaks the second demand, and one that can be read the first.
  cases hdecode : PostedMessage.decodeLog first with
  | error e =>
    have hnone := hnotFound (by simp)
    rw [hdecode] at hnone
    cases hnone
  | ok m =>
    obtain ⟨-, posted, -, -, hposted, -⟩ := hfound m (by rw [hdecode]; rfl)
    simp at hposted

/-- The result of a search is about the given outboxes exactly if there are any, or no log of the
chain reports the message. -/
theorem searchMeets_iff (h : env.Tells node history) (s : σ) (outboxes : List Address)
    (messageId : Word) (fromBlock : BitVec 64) :
    SearchMeets outboxes messageId fromBlock history
        (searchResult env s node outboxes messageId fromBlock) ↔
      outboxes ≠ [] ∨ ∀ log ∈ history, ¬ log.Reports messageId fromBlock := by
  constructor
  · intro hmeets
    -- What is left is a search without outboxes on a chain that holds such a log.
    by_contra hnot
    obtain ⟨rfl, log, hlog, hreports⟩ : outboxes = [] ∧ ∃ log ∈ history,
        log.Reports messageId fromBlock := by
      simpa using hnot
    exact not_searchMeets_of_reports h s hlog hreports hmeets
  · rw [searchResult_eq h]
    rintro (hne | hnone)
    · simp only [hne, false_or]
      cases hfind : history.find? fun log =>
        log.address ∈ outboxes ∧ log.Reports messageId fromBlock with
      | none => exact .of_forall_not_reports
      | some log => exact .of_find?_eq_some hfind
    · have hfind : (history.find? fun log =>
          (outboxes = [] ∨ log.address ∈ outboxes) ∧ log.Reports messageId fromBlock) = none :=
        List.find?_eq_none.mpr fun log hlog => by simp [hnone log hlog]
      rw [hfind]
      exact .of_forall_not_reports

end

/-! ### A chain with two logs of one message -/

namespace Ledger

/-- A node that tells the logs of a chain. -/
def node (history : List Log) : Environment Unit Unit where
  answer _ _ request :=
    (match request with
      | .logs f => .ok (history.filter fun log => f.Matches log)
      | _ => .error (.transport "unexpected"), ())

theorem tells_node (history : List Log) : (node history).Tells () history := fun _ _ => rfl

/-- A message, and one with its id that an outbox did not post. -/
def message : PostedMessage := { id := 0x86, sourceChain := 1, destinationChain := 2, receiver := 3 }

def forged : PostedMessage := { message with receiver := 0xbad }

/-- The log that reports a message. -/
def logOf (m : PostedMessage) (address : Address) (block : BitVec 64) : Log :=
  { address, topics := m.encodeLog.1, data := m.encodeLog.2, blockNumber := some block }

theorem decodeLog_logOf {m : PostedMessage} (hsize : m.encodeLog.2.length < 2 ^ 64)
    (address : Address) (block : BitVec 64) :
    PostedMessage.decodeLog (logOf m address block) = .ok m := by
  have hread := m.decodeLog_encodeLog address (some block) [] hsize
  rwa [List.append_nil] at hread

/-- The forged message was logged first, by an address that is no outbox. -/
def history : List Log := [logOf forged 0xbad 10, logOf message 0x25 20]

/-- A search without outboxes ends with the forged message. -/
theorem searchResult_forged :
    (node history).Tells () history ∧
      searchResult (node history) () () [] message.id 0 = .ok forged ∧
      ¬ SearchMeets [] message.id 0 history
        (searchResult (node history) () () [] message.id 0) := by
  have htells := tells_node history
  have hfind : history.find? (fun log => (([] : List Address) = [] ∨ log.address ∈ []) ∧
      log.Reports message.id 0) = some (logOf forged 0xbad 10) := by decide +kernel
  have hreports : (logOf forged 0xbad 10).Reports message.id 0 := by decide +kernel
  refine ⟨htells, ?_, not_searchMeets_of_reports htells () (by simp [history]) hreports⟩
  rw [searchResult_eq htells, hfind]
  simp only [decodeLog_logOf (show forged.encodeLog.2.length < 2 ^ 64 by decide +kernel)]
  rfl

/-- A search among the outboxes passes over the forged message. -/
theorem searchMeets_outbox :
    (node history).Tells () history ∧ ([0x25] : List Address) ≠ [] ∧
      SearchMeets [0x25] message.id 0 history
        (searchResult (node history) () () [0x25] message.id 0) := by
  have htells := tells_node history
  have hne : ([0x25] : List Address) ≠ [] := by decide
  exact ⟨htells, hne, (searchMeets_iff htells () [0x25] message.id 0).mpr (.inl hne)⟩

end Ledger

end CrossCall
