import Mathlib.Data.List.Induction
import PokerClient.Proofs.Accesses
import PokerClient.Proofs.CredentialText

/-!
# A write and a read at the same time

Two operations take turns, one access to the slot at a time. A credential that is
stored while another operation reads stays in the slot, unless the read found a
worthless text before the credential was stored and removes what it finds afterwards.
-/

namespace PokerClient

open Http Json Time

/-- One of two operations that are under way at the same time. -/
inductive Side where
  | writer
  | reader
  deriving DecidableEq, Repr

/-- Two operations that are under way at the same time, in one world. -/
structure Race (α β : Type) : Type 1 where
  writer : Process α
  reader : Process β
  world : World

namespace Race

variable {α β : Type}

/-- One of the two takes its next step. -/
def turn (r : Race α β) : Side → Race α β
  | .writer =>
    let (writer, world) := r.writer.advance r.world
    { r with writer, world }
  | .reader =>
    let (reader, world) := r.reader.advance r.world
    { r with reader, world }

/-- The two take turns. -/
def run (r : Race α β) (schedule : List Side) : Race α β := schedule.foldl turn r

theorem run_snoc (r : Race α β) (schedule : List Side) (side : Side) :
    r.run (schedule ++ [side]) = (r.run schedule).turn side := by
  simp [run]

/-- The reader was under way before a step of the writer that stored a credential, and so
it was after that. -/
def Overtakes (start : Race α β) (c : Credential) (schedule : List Side) : Prop :=
  ∃ early late, schedule = early ++ .writer :: late ∧ .reader ∈ early ∧ .reader ∈ late ∧
    (start.run early).world.slot = start.world.slot ∧
    (start.run (early ++ [.writer])).world.slot = some c.blob

/-- The text that was in the slot at first is worthless. -/
def StartsWorthless (start : Race α β) (now : Moment) : Prop :=
  ∃ blob, start.world.slot = some blob ∧ Store.Worthless now blob

/-- How far a race has come after some turns. -/
inductive Phase (S : Credential → α → Prop) (now : Moment) (start : Race α β)
    (schedule : List Side) (r : Race α β) : Prop
  /-- Nothing has been stored yet. -/
  | before (hw : r.writer.Storing S) (hr : r.reader.Reading now)
      (hslot : r.world.slot = start.world.slot ∨ r.world.slot = none)
  /-- Nothing has been stored yet, and the reader is about to remove what it has found. -/
  | looked (hw : r.writer.Storing S) (hr : r.reader.Settling)
      (hslot : r.world.slot = start.world.slot) (hstart : start.StartsWorthless now)
      (hturn : .reader ∈ schedule)
  /-- A credential has been stored, and the reader has found nothing to remove. -/
  | stored (c : Credential) (hw : r.writer.Stored (S c)) (hr : r.reader.Reading now)
      (hslot : r.world.slot = some c.blob)
  /-- A credential has been stored, and the reader is about to remove what it had found
  before. -/
  | overtaken (c : Credential) (hw : r.writer.Stored (S c)) (hr : r.reader.Settling)
      (hslot : r.world.slot = some c.blob) (hstart : start.StartsWorthless now)
      (early late : List Side) (hschedule : schedule = early ++ .writer :: late)
      (hturn : .reader ∈ early) (hearly : (start.run early).world.slot = start.world.slot)
      (hwritten : (start.run (early ++ [.writer])).world.slot = some c.blob)
  /-- A credential was stored and is gone. -/
  | lost (c : Credential) (hw : r.writer.Stored (S c)) (hr : r.reader.Aside)
      (hslot : r.world.slot = none) (hstart : start.StartsWorthless now)
      (hrace : start.Overtakes c schedule)
  /-- A credential was stored that is worthless to the reader. -/
  | spoiled (c : Credential) (hw : r.writer.Stored (S c))
      (hworthless : Store.Worthless now c.blob)

variable {S : Credential → α → Prop} {now : Moment} {start r : Race α β} {schedule : List Side}

theorem Overtakes.append {c : Credential} (h : start.Overtakes c schedule) (side : Side) :
    start.Overtakes c (schedule ++ [side]) := by
  obtain ⟨early, late, rfl, hbefore, hafter, hearly, hwritten⟩ := h
  exact ⟨early, late ++ [side], List.append_assoc _ _ _, hbefore, List.mem_append_left _ hafter,
    hearly, hwritten⟩

theorem Phase.writer_turn (hrun : r = start.run schedule) (h : Phase S now start schedule r) :
    Phase S now start (schedule ++ [.writer]) (r.turn .writer) := by
  cases h with
  | before hw hr hslot =>
    rcases hw.advance r.world with ⟨hs, hw⟩ | ⟨c, hs, hw⟩
    · exact .before hw hr (hslot.imp hs.trans hs.trans)
    · exact .stored c hw hr hs
  | looked hw hr hslot hstart hturn =>
    -- A write at this point is the one that the pending removal can hit.
    rcases hw.advance r.world with ⟨hs, hw⟩ | ⟨c, hs, hw⟩
    · exact .looked hw hr (hs.trans hslot) hstart (List.mem_append_left _ hturn)
    · refine .overtaken c hw hr hs hstart schedule [] rfl hturn ?_ ?_
      · rw [← hrun]
        exact hslot
      · rw [run_snoc, ← hrun]
        exact hs
  | stored c hw hr hslot =>
    obtain ⟨hs, hw⟩ := hw.advance r.world
    exact .stored c hw hr (hs.trans hslot)
  | overtaken c hw hr hslot hstart early late hschedule hturn hearly hwritten =>
    obtain ⟨hs, hw⟩ := hw.advance r.world
    subst hschedule
    exact .overtaken c hw hr (hs.trans hslot) hstart early (late ++ [.writer])
      (List.append_assoc _ _ _) hturn hearly hwritten
  | lost c hw hr hslot hstart hrace =>
    obtain ⟨hs, hw⟩ := hw.advance r.world
    exact .lost c hw hr (hs.trans hslot) hstart (hrace.append .writer)
  | spoiled c hw hworthless => exact .spoiled c (hw.advance r.world).2 hworthless

theorem Phase.reader_turn (h : Phase S now start schedule r) :
    Phase S now start (schedule ++ [.reader]) (r.turn .reader) := by
  have hturn : Side.reader ∈ schedule ++ [.reader] := List.mem_append_right _ List.mem_cons_self
  cases h with
  | before hw hr hslot =>
    rcases hr.advance r.world with ⟨hs, hr | ⟨hr, blob, hblob, hworthless⟩⟩
    · exact .before hw hr (hslot.imp hs.trans hs.trans)
    · rcases hslot with hslot | hslot
      · exact .looked hw hr (hs.trans hslot) ⟨blob, hslot.symm.trans hblob, hworthless⟩ hturn
      · cases hblob.symm.trans hslot
  | looked hw hr hslot hstart _ =>
    obtain ⟨hs, hr⟩ := hr.advance r.world
    exact .before hw hr.reading (hs.imp (·.trans hslot) id)
  | stored c hw hr hslot =>
    rcases hr.advance r.world with ⟨hs, hr | ⟨hr, blob, hblob, hworthless⟩⟩
    · exact .stored c hw hr (hs.trans hslot)
    · -- The text that the reader finds is the stored credential itself.
      cases hblob.symm.trans hslot
      exact .spoiled c hw hworthless
  | overtaken c hw hr hslot hstart early late hschedule hbefore hearly hwritten =>
    obtain ⟨hs, hr⟩ := hr.advance r.world
    rcases hs with hs | hs
    · exact .stored c hw hr.reading (hs.trans hslot)
    · subst hschedule
      refine .lost c hw hr hs hstart ⟨early, late ++ [.reader], List.append_assoc _ _ _, hbefore,
        ?_, hearly, hwritten⟩
      exact List.mem_append_right _ List.mem_cons_self
  | lost c hw hr hslot hstart hrace =>
    obtain ⟨hs, hr⟩ := hr.advance r.world
    exact .lost c hw hr (hs.trans hslot) hstart (hrace.append .reader)
  | spoiled c hw hworthless => exact .spoiled c hw hworthless

/-- Whatever the turns, a race stays within its phases. -/
theorem phase_run (hw : start.writer.Storing S) (hr : start.reader.Reading now)
    (schedule : List Side) : Phase S now start schedule (start.run schedule) := by
  induction schedule using List.reverseRecOn with
  | nil => exact .before hw hr (Or.inl rfl)
  | append_singleton schedule side ih =>
    rw [run_snoc]
    cases side with
    | writer => exact ih.writer_turn rfl
    | reader => exact ih.reader_turn

/-- Where the slot ends up when both operations have ended and the writer has stored a
credential. -/
theorem slot_of_ended {a : α} {result : Except Stop β} {c : Credential}
    (hw : start.writer.Storing S) (hr : start.reader.Reading now)
    (hwritten : (start.run schedule).writer = .ended (.ok a))
    (hread : (start.run schedule).reader = .ended result)
    (hunique : ∀ b, S b a → b = c) (hstored : S c a) (husable : ¬ Store.Worthless now c.blob) :
    (start.run schedule).world.slot = some c.blob ∨
      (start.run schedule).world.slot = none ∧ start.StartsWorthless now ∧
        start.Overtakes c schedule := by
  have hended {b : Credential} (h : (start.run schedule).writer.Stored (S b)) : b = c := by
    rw [hwritten] at h
    obtain ⟨a', ha, hb⟩ := h
    cases ha
    exact hunique b hb
  have hnot (h : (start.run schedule).writer.Storing S) : False := by
    rw [hwritten] at h
    exact h a rfl c hstored
  cases phase_run hw hr schedule with
  | before hw => exact (hnot hw).elim
  | looked hw => exact (hnot hw).elim
  | stored b hw _ hslot =>
    rw [← hended hw]
    exact Or.inl hslot
  | overtaken b _ hr =>
    rw [hread] at hr
    exact hr.elim
  | lost b hw _ hslot hstart hrace =>
    rw [← hended hw]
    exact Or.inr ⟨hslot, hstart, hrace⟩
  | spoiled b hw hworthless =>
    rw [hended hw] at hworthless
    exact absurd hworthless husable

end Race
namespace Session

/-- Two steps of sessions with one client, under way at the same time. -/
def race (c : Client) (kw kr : Conditions) (url url' : String) (writer reader : Command)
    (w : World) : Race Report Report where
  writer := process c kw url writer
  reader := process c kr url' reader
  world := w

/-- A credential that is stored while another operation reads, and that is usable to it, is
in the slot when both have ended. Or else it was stored between the two accesses of a read
that found a worthless text, and has been removed instead of that text. -/
theorem race_slot (c : Client) (kw kr : Conditions) (url url' : String) (writer reader : Command)
    (w : World) (schedule : List Side) {report : Report} {result : Except Stop Report}
    {credential : Credential} {n : Int} (hreads : reader.Reads)
    (hwritten : ((race c kw kr url url' writer reader w).run schedule).writer =
      .ended (.ok report))
    (hread : ((race c kw kr url url' writer reader w).run schedule).reader = .ended result)
    (hkeeps : Keeps c kw.now writer credential report)
    (hn : kr.now.instant? = some n) (hlt : n < (credential.expiresAt.micros : Int)) :
    ((race c kw kr url url' writer reader w).run schedule).world.slot = some credential.blob ∨
      ((race c kw kr url url' writer reader w).run schedule).world.slot = none ∧
        (race c kw kr url url' writer reader w).StartsWorthless kr.now ∧
        (race c kw kr url url' writer reader w).Overtakes credential schedule := by
  have hstoring : (process c kw url writer).Storing (Keeps c kw.now writer) := by
    cases hkeeps with
    | login => exact login_storing _ _
    | set => exact set_storing _
  have husable : Store.Usable kr.now credential.blob credential :=
    ⟨credential.ofBlob_blob, n, hn, hlt⟩
  exact Race.slot_of_ended hstoring (process_reading hreads) hwritten hread
    (fun _ hb => hb.unique hkeeps) hkeeps husable.not_worthless

/-- A read that is done with a worthless text before a credential is stored. -/
theorem race_slot_of_turns :
    let c : Client := { store := {}, settings := .standard }
    let k : Conditions := { now := .ofUtc default }
    let credential : Credential :=
      { accessToken := "a", refreshToken := "r", expiresAt := ⟨62135596801000000, by decide⟩ }
    let v : Value := .object
      [("access_token", .str "a"), ("refresh_token", .str "r"), ("expires_at", .int 1)]
    let w : World := { slot := some "?", answers := [], otherwise := .gaveUp "ReadError" "" }
    let start := race c k k "" "" (.set v) .get w
    let final := start.run [.reader, .reader, .writer, .writer]
    final.writer = .ended (.ok .done) ∧ final.reader = .ended (.ok (.credential none)) ∧
      Keeps c k.now (.set v) credential .done ∧
      (final.world.slot = some credential.blob ∨ final.world.slot = none ∧
        start.StartsWorthless k.now ∧
        start.Overtakes credential [.reader, .reader, .writer, .writer]) := by
  intro c k credential v w start final
  have hwritten : final.writer = .ended (.ok .done) := rfl
  have hread : final.reader = .ended (.ok (.credential none)) := rfl
  have hkeeps : Keeps c k.now (.set v) credential .done := .set rfl
  have hnow : k.now.instant? = some 0 := rfl
  have hlater : (0 : Int) < credential.expiresAt.micros := by decide
  exact ⟨hwritten, hread, hkeeps,
    race_slot c k k "" "" (.set v) .get w _ trivial hwritten hread hkeeps hnow hlater⟩

/-- A read that looks at a worthless text before a credential is stored, and empties the
slot after that. -/
theorem race_loses_credential :
    let c : Client := { store := {}, settings := .standard }
    let k : Conditions := { now := .ofUtc default }
    let credential : Credential :=
      { accessToken := "a", refreshToken := "r", expiresAt := ⟨62135596801000000, by decide⟩ }
    let v : Value := .object
      [("access_token", .str "a"), ("refresh_token", .str "r"), ("expires_at", .int 1)]
    let w : World := { slot := some "?", answers := [], otherwise := .gaveUp "ReadError" "" }
    let final := (race c k k "" "" (.set v) .get w).run [.reader, .writer, .writer, .reader]
    final.writer = .ended (.ok .done) ∧ final.reader = .ended (.ok (.credential none)) ∧
      Keeps c k.now (.set v) credential .done ∧ Store.Usable k.now credential.blob credential ∧
      final.world.slot = none := by
  intro c k credential v w final
  have husable : Store.Usable k.now credential.blob credential :=
    ⟨credential.ofBlob_blob, 0, rfl, by decide⟩
  exact ⟨rfl, rfl, .set rfl, husable, rfl⟩

end Session
end PokerClient
