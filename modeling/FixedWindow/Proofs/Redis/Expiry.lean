import FixedWindow.Proofs.Redis.Keyspace
import FixedWindow.Settings.Validation

/-!
# The expiry that is asked for

A client asks the server to let a new key expire with the window: after its whole milliseconds, and
after one at least. The number is sent as a word of 64 bits. Up to the largest word it is the window
rounded down, so that the key lives no longer than the window and less than a millisecond shorter,
and a longer window never asks for less. A longer window asks for what is left of it when multiples
of the word size are taken away. This may be next to nothing, and if it is nothing at all, or more
than a signed word, then the server refuses it and the key is left without an expiry. The same may
happen to a smaller expiry that ends too late for the clock of the server.

## Main results

* `Redis.expiryMs_of_lt`, `Redis.expiryMs_of_le`: the expiry for windows that fit a word and for
  those that do not.
* `Redis.Keyspace.live?_transaction`: how long a key lives that a transaction creates.
* `Redis.Client.increment_sent`: what is sent, and what becomes of the key.
-/

namespace FixedWindow

/-! ### Whole milliseconds -/

namespace Span

theorem ofMillis_wholeMillis (d : Span) :
    ofMillis d.wholeMillis ≤ d ∧ d < ofMillis (d.wholeMillis + 1) := by
  show d.nanos / 1000000 * 1000000 ≤ d.nanos ∧ d.nanos < (d.nanos / 1000000 + 1) * 1000000
  omega

theorem wholeMillis_mono {d e : Span} (h : d ≤ e) : d.wholeMillis ≤ e.wholeMillis :=
  Nat.div_le_div_right h

theorem wholeMillis_ofSecs (secs : Nat) : (ofSecs secs).wholeMillis = secs * 1000 := by
  simp only [ofSecs, wholeMillis, nanosPerSec, nanosPerMilli]
  omega

end Span

namespace Redis

/-! ### The expiry of a window -/

section Expiry

variable {window : Span}

/-- A window that fits a word is rounded down to whole milliseconds, but not to none. -/
theorem expiryMs_of_lt (h : window.wholeMillis < wordSize) :
    expiryMs window = max window.wholeMillis 1 :=
  Nat.mod_eq_of_lt (Nat.max_lt.mpr ⟨h, by decide⟩)

/-- Of a longer window the word keeps what is left without multiples of its size. -/
theorem expiryMs_of_le (h : wordSize ≤ window.wholeMillis) :
    expiryMs window = window.wholeMillis % wordSize := by
  have hone : 1 ≤ window.wholeMillis := Nat.le_trans (by decide) h
  rw [expiryMs, Nat.max_eq_left hone]

theorem ofMillis_expiryMs (h : window.wholeMillis < wordSize) (hone : .ofMillis 1 ≤ window) :
    .ofMillis (expiryMs window) ≤ window ∧ window < .ofMillis (expiryMs window + 1) := by
  have hpos : 1 ≤ window.wholeMillis := Span.wholeMillis_ofMillis 1 ▸ Span.wholeMillis_mono hone
  rw [expiryMs_of_lt h, Nat.max_eq_left hpos]
  exact window.ofMillis_wholeMillis

theorem expiryMs_mono {shorter : Span} (h : window.wholeMillis < wordSize)
    (hle : shorter ≤ window) : expiryMs shorter ≤ expiryMs window := by
  have hmillis := Span.wholeMillis_mono hle
  rw [expiryMs_of_lt h, expiryMs_of_lt (Nat.lt_of_le_of_lt hmillis h)]
  omega

end Expiry

/-! ### The life of a key -/

namespace Keyspace

variable (k : Keyspace) {ms : Nat} {key : String}

theorem execute_setIfAbsent {expiryMs : Nat} (habsent : k.live? ms key = none)
    (haccepts : k.accepts ms expiryMs = true) :
    (k.execute ms (.setIfAbsent key expiryMs)).2 = k.put key ⟨0, some (ms + expiryMs)⟩ := by
  simp only [execute, habsent, haccepts, if_true]

theorem execute_setIfAbsent_of_refused {expiryMs : Nat}
    (hrefused : ¬ k.accepts ms expiryMs = true) :
    k.execute ms (.setIfAbsent key expiryMs) = (.error "ERR invalid expire time", k) := by
  rw [execute, if_neg hrefused]

theorem execute_incr {s : Slot} (hs : (k.live? ms key).getD ⟨0, none⟩ = s)
    (hroom : s.count < maxInteger) :
    (k.execute ms (.incr key)).2 = k.put key { s with count := s.count + 1 } := by
  simp only [execute, hs, if_pos hroom]

/-- A key that a transaction creates lives for the expiry that was asked for. An expiry of nothing,
one beyond the signed words, or one that ends too late is refused, and then the key stays. -/
theorem live?_transaction {call : Store.Call} (habsent : k.live? ms call.key = none)
    (later : Nat) :
    let px := expiryMs call.window
    (k.executeAll ms (Redis.transaction call)).2.live? later call.key =
      if 0 < px ∧ px ≤ maxInteger ∧ ∀ last ∈ k.latest?, ms + px ≤ last then
        if later < ms + px then some ⟨1, some (ms + px)⟩ else none
      else some ⟨1, none⟩ := by
  intro px
  have hroom : 0 < maxInteger := by decide
  simp only [Redis.transaction, executeAll, execute_timeLeft, ← accepts_iff]
  by_cases haccepts : k.accepts ms px = true
  · have hfresh : ((k.put call.key ⟨0, some (ms + px)⟩).live? ms call.key).getD ⟨0, none⟩ =
        ⟨0, some (ms + px)⟩ := by
      simp [live?_put, Slot.isPresent, (accepts_iff.mp haccepts).1]
    rw [if_pos haccepts, execute_setIfAbsent k habsent haccepts,
      execute_incr _ hfresh hroom, live?_put, if_pos rfl]
    simp [Slot.isPresent]
  · have hfresh : (k.live? ms call.key).getD ⟨0, none⟩ = ⟨0, none⟩ := by
      rw [habsent, Option.getD_none]
    rw [if_neg haccepts, execute_setIfAbsent_of_refused k haccepts,
      execute_incr _ hfresh hroom, live?_put, if_pos rfl]
    simp [Slot.isPresent]

end Keyspace

/-! ### What is sent -/

namespace Client

/-- A call is sent on one connection, and the expiry that it asks for is a word. If the whole
milliseconds of the window fit a word, which windows of whole seconds do up to 18446744073709551 of
them, then the expiry is the window rounded down, or one millisecond for less than that; it is not
nothing, and no shorter window asks for more. For other windows the word falls short of the window
by a multiple of its size, and it is nothing if the window is such a multiple. If the key is absent,
it is created and lives as long as asked for; an expiry of nothing, one beyond the signed words, or
one that ends too late for the server is refused, and then the key stays. -/
theorem increment_sent {σ : Type} (peer : Peer σ) (c : Client σ) (now : Instant)
    (call : Store.Call) :
    let window := call.window
    let px := expiryMs window
    (c.increment peer now call).state.sent = c.sent ++
        [["MULTI"], ["SET", call.key, "0", "NX", "PX", toString px], ["INCR", call.key],
          ["PTTL", call.key], ["EXEC"]].map (fun words => (c.connection, words)) ∧
      (∀ secs, window = .ofSecs secs →
        (window.wholeMillis < wordSize ↔ secs ≤ 18446744073709551)) ∧
      (window.wholeMillis < wordSize →
        px = max window.wholeMillis 1 ∧ 0 < px ∧
          (.ofMillis 1 ≤ window → .ofMillis px ≤ window ∧ window < .ofMillis (px + 1)) ∧
          ∀ shorter ≤ window, expiryMs shorter ≤ px) ∧
      (wordSize ≤ window.wholeMillis →
        px = window.wholeMillis % wordSize ∧ .ofMillis (px + wordSize) ≤ window ∧
          (px = 0 ↔ wordSize ∣ window.wholeMillis)) ∧
      ∀ (k : Keyspace) (ms later : Nat), k.live? ms call.key = none →
        (k.executeAll ms (transaction call)).2.live? later call.key =
          if 0 < px ∧ px ≤ maxInteger ∧ ∀ last ∈ k.latest?, ms + px ≤ last then
            if later < ms + px then some ⟨1, some (ms + px)⟩ else none
          else some ⟨1, none⟩ := by
  intro window px
  refine ⟨rfl, fun secs hsecs => ?_, fun hfits => ⟨expiryMs_of_lt hfits, ?_,
    ofMillis_expiryMs hfits, fun shorter hle => expiryMs_mono hfits hle⟩, fun hlong => ?_,
    fun k ms later habsent => k.live?_transaction habsent later⟩
  · rw [hsecs, Span.wholeMillis_ofSecs, wordSize]
    omega
  · have hpx : px = max window.wholeMillis 1 := expiryMs_of_lt hfits
    rw [hpx]
    exact Nat.lt_of_lt_of_le Nat.zero_lt_one (Nat.le_max_right _ _)
  · have hpx : px = window.wholeMillis % wordSize := expiryMs_of_le hlong
    refine ⟨hpx, ?_, ?_⟩
    · have hshort : px + wordSize ≤ window.wholeMillis := by
        simp only [hpx, wordSize] at hlong ⊢
        omega
      exact Nat.le_trans (Nat.mul_le_mul_right _ hshort) window.ofMillis_wholeMillis.1
    · rw [hpx]
      exact (Nat.dvd_iff_mod_eq_zero ..).symm

/-- Settings with a window of 18446744073709552 seconds pass validation, and the key that is created
for it lives for 384 milliseconds, while that of a window of 60 seconds lives for all of them. A
window of as many milliseconds as there are words asks for an expiry of nothing, and the key that is
created for it stays. So does one whose expiry would end beyond the last millisecond of the
server. -/
theorem increment_sent_beyond_word :
    let settings (secs : Nat) : Settings := { limits := { windowSecs := secs } }
    let peer : Peer Unit := ⟨fun _ _ _ => (none, ()), fun _ _ _ => (none, ())⟩
    let c : Client Unit := { connections := 1, timeout := .ofSecs 3, server := () }
    let sent (window : Span) := (c.increment peer ⟨0⟩ ⟨"key", window⟩).state.sent[1]?
    let keptBy (k : Keyspace) (window : Span) (later : Nat) :=
      (k.executeAll 5 (transaction ⟨"key", window⟩)).2.live? later "key"
    let kept := keptBy {}
    let minute := (settings 60).limits.window
    let long := (settings 18446744073709552).limits.window
    let words : Span := .ofMillis wordSize
    (settings 18446744073709552).validate = .ok (settings 18446744073709552) ∧
      sent minute = some (0, ["SET", "key", "0", "NX", "PX", "60000"]) ∧
      sent long = some (0, ["SET", "key", "0", "NX", "PX", "384"]) ∧
      sent words = some (0, ["SET", "key", "0", "NX", "PX", "0"]) ∧
      (kept minute 60004 = some ⟨1, some 60005⟩ ∧ kept minute 60005 = none) ∧
      (kept long 388 = some ⟨1, some 389⟩ ∧ kept long 389 = none) ∧
      (∀ later, kept words later = some ⟨1, none⟩) ∧
      ∀ later, keptBy { latest? := some 60004 } minute later = some ⟨1, none⟩ := by
  intro settings peer c sent keptBy kept minute long words
  have hfrom (window : Span) := increment_sent peer c ⟨0⟩ ⟨"key", window⟩
  have hsent (window : Span) : sent window =
      some (0, ["SET", "key", "0", "NX", "PX", toString (expiryMs window)]) :=
    congrArg (fun lines : List (Nat × List String) => lines[1]?) (hfrom window).1
  have hkeptBy (k : Keyspace) (window : Span) (later : Nat)
      (habsent : k.live? 5 "key" = none) := (hfrom window).2.2.2.2 k 5 later habsent
  have hkept (window : Span) (later : Nat) := hkeptBy {} window later rfl
  have hminute : expiryMs minute = 60000 := by decide
  have hlong : expiryMs long = 384 := by decide
  have hwords : expiryMs words = 0 := by decide
  refine ⟨Settings.validate_eq_ok_iff.mpr ⟨by decide, rfl⟩, by rw [hsent, hminute]; rfl,
    by rw [hsent, hlong]; rfl, by rw [hsent, hwords]; rfl, ⟨?_, ?_⟩, ⟨?_, ?_⟩, fun later => ?_,
    fun later => ?_⟩
  · exact (hkept minute 60004).trans (by rw [hminute]; rfl)
  · exact (hkept minute 60005).trans (by rw [hminute]; rfl)
  · exact (hkept long 388).trans (by rw [hlong]; rfl)
  · exact (hkept long 389).trans (by rw [hlong]; rfl)
  · exact (hkept words later).trans (by rw [hwords]; rfl)
  · exact (hkeptBy _ minute later rfl).trans (by rw [hminute]; rfl)

end Client

end Redis

end FixedWindow
