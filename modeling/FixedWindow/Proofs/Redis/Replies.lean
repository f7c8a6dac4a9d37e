import FixedWindow.Proofs.Frame
import FixedWindow.Proofs.Redis.Keyspace

/-!
# Whatever the server replies

A limiter over a server depends on a peer that may reply anything to a transaction, or nothing. The
client makes one of four things of it: figures, if the reply is a list of three with two positive
numbers at the end; a complaint, if one of the numbers is not positive; a timeout, if no answer
came; and a failure in every other case. Only figures are put to use; all else is a failed call,
after which the check is counted locally. As the numbers of a server are signed words, a check is
decided in any case, as long as the clock can hold the longest time that such a word can name.

An error counts at any depth of a reply: a list with an error inside is a failure, and then it does
not matter which numbers follow. So is a reply that cannot be parsed. A pushed message that belongs
to no command is no answer. What is left out is the empty list, the one reply by which a call is
aborted.

## Main definitions

* `Redis.Gives`: what came back gives a count and the milliseconds left.
* `Redis.IsSilent`: no answer came back.
* `Redis.Reading`: the four things that a client makes of what came back.

## Main results

* `Redis.le_maxInteger_of_toInt?`: the range of a number in a reply.
* `Redis.readTransaction_eq_error_iff`: which reply aborts a call.
* `Redis.exists_reading`: what else came back is read in one of the four ways.
* `Redis.Client.check_of_reading`: what a check comes to that asks a server.
* `Redis.Client.check_of_empty_list`: the empty list aborts a check that asks the server.
* `Redis.Client.check_of_any_reply`: a check over a server is always decided.
-/

namespace FixedWindow

namespace Redis

/-! ### Numbers in a reply -/

theorem fitsSigned_of_readInt64? {text : String} {n : Int}
    (h : Number.readInt64? text = some n) : Number.fitsSigned 64 n = true := by
  unfold Number.readInt64? Number.readSigned? at h
  split at h
  · exact (Option.filter_eq_some_iff.mp h).2
  · exact (Option.filter_eq_some_iff.mp h).2
  · exact (Option.filter_eq_some_iff.mp h).2

theorem le_maxInteger_of_fitsSigned {n : Int} (h : Number.fitsSigned 64 n = true) :
    n ≤ maxInteger := by
  have hlt : n < (Nat.pow 2 (64 - 1) : Nat) := by
    simpa using (Bool.and_eq_true_iff.mp h).2
  have hpow : Nat.pow 2 (64 - 1) = maxInteger + 1 := by decide
  omega

theorem truncateToWord_le (x : Binary64) : x.truncateToWord ≤ maxInteger := by
  cases x with
  | nan => decide
  | infinite negative => cases negative <;> decide
  | finite negative mantissa exponent =>
    simp only [Binary64.truncateToWord]
    split
    · exact Int.le_trans (Int.neg_nonpos_of_nonneg (Int.natCast_nonneg _)) (Int.natCast_nonneg _)
    · exact Int.ofNat_le.mpr (Nat.min_le_right _ _)

theorem Reply.parses_bare {r : Reply} {levels : Nat} (h : r.parses levels = true) :
    ∃ inner, r.bare.parses inner = true := by
  cases r with
  | attributed attributes data =>
    cases levels with
    | zero => cases h
    | succ levels => exact ⟨levels, (Bool.and_eq_true_iff.mp h).2⟩
  | _ => exact ⟨levels, h⟩

/-- A number in a reply is no larger than the largest of the server. -/
theorem le_maxInteger_of_toInt? {r : Reply} {levels : Nat} (hparses : r.parses levels = true)
    {n : Int} (h : r.toInt? = some n) : n ≤ maxInteger := by
  obtain ⟨inner, hinner⟩ := Reply.parses_bare hparses
  unfold Reply.toInt? at h
  split at h
  · rename_i m hbare
    cases h
    rw [hbare] at hinner
    cases inner with
    | zero => cases hinner
    | succ inner => exact le_maxInteger_of_fitsSigned hinner
  · exact le_maxInteger_of_fitsSigned (fitsSigned_of_readInt64? h)
  · exact le_maxInteger_of_fitsSigned (fitsSigned_of_readInt64? h)
  · cases h
    exact truncateToWord_le _
  · cases h

/-- What came back gives a count and the milliseconds that are left: it is a list of three without
an error in it, with the two numbers at the end. -/
def Gives (reply : Option Reply) (count left : Int) : Prop :=
  ∃ first second third, let list := Reply.array [first, second, third]
    reply = some list ∧ list.parses Reply.maxLevels = true ∧ list.hasError = false ∧
      second.toInt? = some count ∧ third.toInt? = some left

/-- No answer came back: nothing at all, or a notice. -/
def IsSilent (reply : Option Reply) : Prop :=
  ∀ r, reply = some r → r.parses Reply.maxLevels = true ∧ r.isNotice = true

theorem isSilent_none : IsSilent none := fun _ h => by cases h

namespace Gives

variable {reply : Option Reply} {count left : Int}

theorem unique {count' left' : Int} (h : Gives reply count left) (h' : Gives reply count' left') :
    count = count' ∧ left = left' := by
  obtain ⟨first, second, third, rfl, -, -, hcount, hleft⟩ := h
  obtain ⟨_, _, _, hreply, -, -, hcount', hleft'⟩ := h'
  cases hreply
  exact ⟨Option.some.inj (hcount.symm.trans hcount'), Option.some.inj (hleft.symm.trans hleft')⟩

theorem not_isSilent (h : Gives reply count left) : ¬ IsSilent reply := by
  obtain ⟨first, second, third, rfl, -⟩ := h
  intro hsilent
  cases (hsilent _ rfl).2

theorem left_le (h : Gives reply count left) : left ≤ maxInteger := by
  obtain ⟨first, second, third, -, hparses, -, -, hleft⟩ := h
  simp only [Reply.maxLevels, Reply.parses, Reply.allParse, Bool.and_eq_true] at hparses
  exact le_maxInteger_of_toInt? hparses.2.2.1 hleft

end Gives

/-! ### What a client makes of a reply -/

/-- An empty list is all that aborts a call. -/
theorem readTransaction_eq_error_iff {timeout : Span} {reply : Option Reply} {why : Abort} :
    readTransaction timeout reply = .error why ↔ reply = some (.array []) ∧ why = .belowZero := by
  constructor
  · intro h
    unfold readTransaction at h
    split at h
    · cases h
    · rename_i hreceived
      cases h
      exact ⟨(receive_eq_ok_iff.mp hreceived).1, rfl⟩
    · cases h
  · rintro ⟨rfl, rfl⟩
    rfl

/-- The four ways in which a client reads what came back for a transaction, or did not. -/
inductive Reading (timeout : Span) (reply : Option Reply) (told : Store.Answer) : Prop
  | silence (hsilent : IsSilent reply) (htold : told = .error (.timeout timeout))
  | figures (count left : Int) (hgives : Gives reply count left) (hcount : 0 < count)
      (hleft : 0 < left) (htold : told = .ok ⟨count.toNat, .ofMillis left.toNat⟩)
  | senseless (count left : Int) (hgives : Gives reply count left)
      (hnot : ¬ (0 < count ∧ 0 < left)) (why : BadReply) (htold : told = .error (.protocol why))
  | unreadable (hreply : ¬ IsSilent reply) (hnone : ∀ count left, ¬ Gives reply count left)
      (htold : told = .error .redis)

theorem readTransaction_of_gives (timeout : Span) {reply : Option Reply} {count left : Int}
    (h : Gives reply count left) :
    readTransaction timeout reply = .ok (windowCount count left) := by
  obtain ⟨first, second, third, rfl, hparses, herror, hcount, hleft⟩ := h
  have hreceived : receive timeout (some (.array [first, second, third])) =
      .ok (.array [first, second, third]) := receive_eq_ok_iff.mpr ⟨rfl, hparses, rfl, herror⟩
  simp [readTransaction, hreceived, figures?, hcount, hleft]

theorem gives_of_figures? {timeout : Span} {reply : Option Reply} {r : Reply} {count left : Int}
    (hreceived : receive timeout reply = .ok r) (h : figures? r = some (count, left)) :
    Gives reply count left := by
  obtain ⟨hreply, hparses, -, herror⟩ := receive_eq_ok_iff.mp hreceived
  unfold figures? at h
  split at h
  · rename_i first second third
    obtain ⟨n, hcount, hrest⟩ := Option.bind_eq_some_iff.mp h
    obtain ⟨m, hleft, hpair⟩ := Option.bind_eq_some_iff.mp hrest
    cases hpair
    exact ⟨first, second, third, hreply, hparses, herror, hcount, hleft⟩
  · cases h

theorem readTransaction_of_isSilent (timeout : Span) {reply : Option Reply} (h : IsSilent reply) :
    readTransaction timeout reply = .ok (.error (.timeout timeout)) := by
  cases reply with
  | none => rfl
  | some r =>
    obtain ⟨hparses, hnotice⟩ := h r rfl
    simp [readTransaction, receive, hparses, hnotice]

/-- An answer that gives no numbers is a failure of the server. -/
theorem readTransaction_of_not_gives (timeout : Span) {reply : Option Reply}
    (hreply : ¬ IsSilent reply) (hfull : reply ≠ some (.array []))
    (h : ∀ count left, ¬ Gives reply count left) :
    readTransaction timeout reply = .ok (.error .redis) := by
  cases hreceived : receive timeout reply with
  | error e =>
    -- silence is ruled out, and all else that is not received is a failure
    have he : e = .redis := by
      unfold receive at hreceived
      split at hreceived
      · exact (hreply isSilent_none).elim
      · rename_i r
        split at hreceived
        · cases hreceived
          rfl
        · rename_i hparses
          split at hreceived
          · rename_i hnotice
            rw [Decidable.not_not] at hparses
            exact (hreply fun _ hr => Option.some.inj hr ▸ ⟨hparses, hnotice⟩).elim
          · split at hreceived
            · cases hreceived
              rfl
            · cases hreceived
    rw [readTransaction, hreceived, he]
  | ok r =>
    have hnone : figures? r = none := by
      refine Option.eq_none_iff_forall_ne_some.mpr fun pair hpair => ?_
      exact h pair.1 pair.2 (gives_of_figures? hreceived hpair)
    have hr : r ≠ .array [] := fun he =>
      hfull ((receive_eq_ok_iff.mp hreceived).1.trans (congrArg some he))
    simp only [readTransaction, hreceived, hnone]

/-- Every reply but the empty list is read in one of the four ways, and so is its absence. -/
theorem exists_reading (timeout : Span) {reply : Option Reply} (hfull : reply ≠ some (.array [])) :
    ∃ told, readTransaction timeout reply = .ok told ∧ Reading timeout reply told := by
  by_cases hsilent : IsSilent reply
  · exact ⟨_, readTransaction_of_isSilent timeout hsilent, .silence hsilent rfl⟩
  by_cases hgives : ∃ count left, Gives reply count left
  · obtain ⟨count, left, hgives⟩ := hgives
    refine ⟨_, readTransaction_of_gives timeout hgives, ?_⟩
    by_cases hcount : count ≤ 0
    · refine .senseless count left hgives (fun h => by omega) (.count count) ?_
      rw [windowCount, if_pos hcount]
    by_cases hleft : left ≤ 0
    · refine .senseless count left hgives (fun h => by omega) (.timeLeft left) ?_
      rw [windowCount, if_neg hcount, if_pos hleft]
    · refine .figures count left hgives (by omega) (by omega) ?_
      rw [windowCount, if_neg hcount, if_neg hleft]
  · have hnone : ∀ count left, ¬ Gives reply count left :=
      fun count left h => hgives ⟨count, left, h⟩
    exact ⟨_, readTransaction_of_not_gives timeout hsilent hfull hnone,
      .unreadable hsilent hnone rfl⟩

namespace Reading

variable {timeout : Span} {reply : Option Reply} {told : Store.Answer}

theorem timeout_iff (h : Reading timeout reply told) :
    (∃ after, told = .error (.timeout after)) ↔ IsSilent reply := by
  cases h with
  | silence hsilent htold => exact ⟨fun _ => hsilent, fun _ => ⟨timeout, htold⟩⟩
  | figures count left hgives hcount hleft htold => simp [htold, hgives.not_isSilent]
  | senseless count left hgives hnot why htold => simp [htold, hgives.not_isSilent]
  | unreadable hreply hnone htold => simp [htold, hreply]

/-- Numbers of which one is not positive are all that is complained about. -/
theorem protocol_iff (h : Reading timeout reply told) :
    (∃ why, told = .error (.protocol why)) ↔
      ∃ count left, Gives reply count left ∧ ¬ (0 < count ∧ 0 < left) := by
  cases h with
  | silence hsilent htold =>
    simp only [htold, Except.error.injEq, reduceCtorEq, exists_false, false_iff]
    rintro ⟨count, left, hgives, -⟩
    exact hgives.not_isSilent hsilent
  | figures count left hgives hcount hleft htold =>
    simp only [htold, reduceCtorEq, exists_false, false_iff]
    rintro ⟨count', left', hgives', hnot⟩
    obtain ⟨rfl, rfl⟩ := hgives.unique hgives'
    exact hnot ⟨hcount, hleft⟩
  | senseless count left hgives hnot why htold =>
    exact ⟨fun _ => ⟨count, left, hgives, hnot⟩, fun _ => ⟨why, htold⟩⟩
  | unreadable hreply hnone htold => simp [htold, hnone]

theorem redis_iff (h : Reading timeout reply told) :
    told = .error .redis ↔ ¬ IsSilent reply ∧ ∀ count left, ¬ Gives reply count left := by
  cases h with
  | silence hsilent htold => simp [htold, hsilent]
  | figures count left hgives hcount hleft htold =>
    simpa [htold] using fun _ => ⟨count, left, hgives⟩
  | senseless count left hgives hnot why htold =>
    simpa [htold] using fun _ => ⟨count, left, hgives⟩
  | unreadable hreply hnone htold => simp [htold, hreply, hnone]

end Reading

end Redis

theorem Instant.exists_add?_of_le {t : Instant} {d longest : Span} (hle : d ≤ longest)
    (h : (t.add? longest).isSome) : ∃ u, t.add? d = some u := by
  obtain ⟨last, hlast⟩ := Option.isSome_iff_exists.mp h
  have hwithin := (add?_eq_some_iff.mp hlast).1
  have hnanos : d.nanos ≤ longest.nanos := hle
  exact ⟨_, add?_eq_some_iff.mpr ⟨by omega, rfl⟩⟩

/-! ### A check over a server -/

namespace Redis.Client

variable {σ : Type} (l : Limiter) (peer : Peer σ) (client : Client σ) (now : Instant)
  (subject : Subject) {limit : Nat} (degraded : Bool) (cache : Cache)

/-- If the server gives two positive numbers, they become the entry of the subject and decide. -/
theorem check_of_figures (hlimit : 0 < limit)
    (hroom : ∀ e, cache.get? now subject.text = some e → e.count < limit) {count left : Int}
    (hleft : 0 < left) {resetAt : Instant} (hend : now.add? (.ofMillis left.toNat) = some resetAt)
    (htold : ((backend peer).increment client now ⟨subject.storeKey l.keyPrefix, l.window⟩).answer =
      .ok ⟨count.toNat, .ofMillis left.toNat⟩) :
    let done := l.check (backend peer) now subject.text limit ⟨degraded, cache, client⟩
    done.answer = .ok (.ofCount count.toNat limit (.ofMillis left.toNat) .store) ∧
      done.state.cache.get? now subject.text = some ⟨count.toNat, limit, resetAt⟩ := by
  intro done
  obtain ⟨hanswer, hstate, -⟩ := l.check_of_room (backend peer) now limit
    ⟨degraded, cache, client⟩ hlimit subject hroom
  have hopen : now < resetAt := Instant.lt_of_add? hend (Span.ofMillis_ne_zero (by omega))
  have hconcluded := l.conclude_ok (backend peer).name degraded cache subject limit
    (t := ⟨count.toNat, resetAt⟩) hopen (Instant.le_last_of_add? hend)
  rw [Instant.since_of_add? hend, ← htold] at hconcluded
  refine ⟨hanswer.trans hconcluded.1, ?_⟩
  rw [(congrArg Tiers.cache hstate).trans hconcluded.2]
  exact Cache.get?_eq_some_iff.mpr ⟨Table.get?_insert_self .., hopen⟩

/-- If the server fails, the check is counted locally, and the limiter is degraded. -/
theorem check_of_failure (hlimit : 0 < limit) (hword : limit ≤ maxCount)
    (hroom : ∀ e, cache.get? now subject.text = some e → e.count < limit)
    (hwindow : l.window ≠ .zero) (hend : (now.add? l.window).isSome) {failure : StoreError}
    (htold : ((backend peer).increment client now ⟨subject.storeKey l.keyPrefix, l.window⟩).answer =
      .error failure) :
    let done := l.check (backend peer) now subject.text limit ⟨degraded, cache, client⟩
    (∃ d, done.answer = .ok d ∧ d.source = .degraded) ∧ done.state.degraded = true := by
  intro done
  obtain ⟨hanswer, hstate, -⟩ := l.check_of_room (backend peer) now limit
    ⟨degraded, cache, client⟩ hlimit subject hroom
  obtain ⟨newEnd, hnewEnd⟩ := Option.isSome_iff_exists.mp hend
  have hconcluded := (l.conclude_error (backend peer).name degraded cache subject limit hwindow
    (fun _ => hnewEnd) (fun t ht => ?_) failure).1
  · rw [← htold] at hconcluded
    refine ⟨⟨_, hanswer.trans hconcluded, rfl⟩, (congrArg Tiers.degraded hstate).trans ?_⟩
    simp only [htold, Limiter.conclude]
  · obtain ⟨e, he, rfl⟩ := Option.map_eq_some_iff.mp ht
    exact Nat.lt_of_lt_of_le (hroom e he) hword

/-- A check that asks the server is decided by two positive numbers, or counted locally. -/
theorem check_of_reading (hwindow : l.window ≠ .zero) (hend : (now.add? l.window).isSome)
    (hlongest : (now.add? (.ofMillis maxInteger)).isSome) (hlimit : 0 < limit)
    (hword : limit ≤ maxCount)
    (hroom : ∀ e, cache.get? now subject.text = some e → e.count < limit) {reply : Option Reply}
    {told : Store.Answer} (hreading : Reading client.timeout reply told)
    (htold : ((backend peer).increment client now ⟨subject.storeKey l.keyPrefix, l.window⟩).answer =
      told) :
    let done := l.check (backend peer) now subject.text limit ⟨degraded, cache, client⟩
    (∃ count left, Gives reply count left ∧ 0 < count ∧ 0 < left ∧
      ∃ resetAt, now.add? (.ofMillis left.toNat) = some resetAt ∧
        done.answer = .ok (.ofCount count.toNat limit (.ofMillis left.toNat) .store) ∧
        done.state.cache.get? now subject.text = some ⟨count.toNat, limit, resetAt⟩) ∨
      (∀ count left, Gives reply count left → ¬ (0 < count ∧ 0 < left)) ∧
        (∃ d, done.answer = .ok d ∧ d.source = .degraded) ∧ done.state.degraded = true := by
  intro done
  have hcounted {failure : StoreError} (hfailed : told = .error failure) :=
    check_of_failure l peer client now subject degraded cache hlimit hword hroom hwindow hend
      (htold.trans hfailed)
  cases hreading with
  | silence hsilent hfailed =>
    exact .inr ⟨fun count left hgives => (hgives.not_isSilent hsilent).elim, hcounted hfailed⟩
  | figures count left hgives hcount hleft hfigures =>
    have hle : left.toNat ≤ maxInteger := Int.toNat_le.mpr hgives.left_le
    obtain ⟨resetAt, hadd⟩ := Instant.exists_add?_of_le (d := .ofMillis left.toNat)
      (Nat.mul_le_mul_right _ hle) hlongest
    exact .inl ⟨count, left, hgives, hcount, hleft, resetAt, hadd,
      check_of_figures l peer client now subject degraded cache hlimit hroom hleft hadd
        (htold.trans hfigures)⟩
  | senseless count left hgives hnot why hfailed =>
    refine .inr ⟨fun count' left' hgives' => ?_, hcounted hfailed⟩
    obtain ⟨rfl, rfl⟩ := hgives.unique hgives'
    exact hnot
  | unreadable hreply hnone hfailed =>
    exact .inr ⟨fun count left hgives => (hnone count left hgives).elim, hcounted hfailed⟩

/-- A check that asks the server is aborted by the empty list, with the local tier as it was. -/
theorem check_of_empty_list (hlimit : 0 < limit)
    (hroom : ∀ e, cache.get? now subject.text = some e → e.count < limit)
    (hempty : (peer.run client.server now
      (transaction ⟨subject.storeKey l.keyPrefix, l.window⟩)).1 = some (.array [])) :
    let done := l.attempt (store peer) now subject.text limit ⟨degraded, cache, client⟩
    done.answer = .error (.abort .belowZero) ∧ done.state.degraded = degraded ∧
      done.state.cache = cache := by
  refine l.attempt_of_abort (store peer) hlimit (fun t ht => ?_)
    (readTransaction_eq_error_iff.mpr ⟨hempty, rfl⟩)
  obtain ⟨e, he, rfl⟩ := Option.map_eq_some_iff.mp ht
  exact hroom e he

end Redis.Client

end FixedWindow
