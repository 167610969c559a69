import Handover.Proofs.Session.Attending

/-! How a worker follows the stream. Whatever it is answered while it polls its connection, unless a fault
ends the frame that it reads, it goes on in the stream from where it was, or it comes to its end. So what
holds of the rest of the stream at one point holds at the next one. -/

set_option autoImplicit false

namespace Handover.Session

def Reply.read (reader : LineReader) : Reply → LineReader
  | .chunk bytes => reader.receive bytes
  | _ => reader

/-- What a worker comes to that has read a frame and its reader so far. -/
inductive Trails (frame : Option Frame.Decoder) (reader : LineReader) (u : Session) : Prop where
  | polls {v : View} {out : List Bytes} : u.point.view = some v → u.point.Starves →
      (∀ d ∈ v.frame, d.isComplete = false) → reader.Continues frame out v.frame v.reader →
      Trails frame reader u
  | ends : u.point.hand = .ended → Trails frame reader u

variable {s u : Session}

theorem Trails.rests {frame : Option Frame.Decoder} {reader : LineReader} {ready : Option Bytes}
    (view : u.point.view = some ⟨frame, reader, ready⟩) (starves : u.point.Starves)
    (unfinished : ∀ d ∈ frame, d.isComplete = false) : Trails frame reader u :=
  .polls view starves unfinished (.refl frame reader)

theorem ReadsFirst.trails {link : Link} (reads : ReadsFirst s link u) : Trails none link.reader u := by
  cases reads with
  | @line first _ given =>
    have unfinished : (Frame.fed none first).isComplete = false := Frame.isComplete_take_start first
    exact .polls rfl trivial (by simp) (.line given unfinished)
  | finished _ stops => exact .ends stops.ends.hand
  | starved starved => exact .rests rfl starved nofun

theorem ReadsFrame.trails {link : Link} {frame : Frame.Decoder} (reads : ReadsFrame s link frame u)
    (unfinished : frame.isComplete = false) : Trails (some frame) link.reader u := by
  obtain ⟨bytes, rest, reached, continues⟩ | ⟨fed, rest, reached, starved, unfinished, continues⟩ :=
    link.reader.gather_continues frame unfinished
  · cases reads with
    | starved other => simp [reached] at other
    | message same =>
      obtain ⟨rfl, rfl⟩ := LineReader.Gathered.message.inj (reached.symm.trans same)
      exact .polls rfl trivial nofun continues
  · cases reads with
    | message other => simp [reached] at other
    | starved same =>
      obtain ⟨rfl, rfl⟩ := LineReader.Gathered.starved.inj (reached.symm.trans same)
      exact .polls rfl starved (by simpa using unfinished) continues

theorem Ticks.trails {link : Link} (ticks : Ticks s link u) : Trails none link.reader u := by
  cases ticks with
  | stops _ retires => exact .ends retires.ends.hand
  | writes => exact .rests rfl trivial nofun
  | reads _ _ reads => exact reads.trails

theorem Polls.trails {v : View} {reply : Reply} (polls : Polls s reply u)
    (view : s.point.view = some v) (unfinished : ∀ d ∈ v.frame, d.isComplete = false)
    (calm : ∀ f, reply = .fault f → v.frame = none) :
    Trails v.frame (reply.read v.reader) u := by
  cases polls with
  | established here | timedWrite here | wrote here | timedAfterWrite here | timedAfterFrame here =>
    rw [here] at view
    cases view
    exact .rests rfl trivial nofun
  | timed here ticks | reportedMessage here ticks | idled here _ ticks =>
    rw [here] at view
    cases view
    exact ticks.trails
  | reportedWrite here reads | received here reads =>
    rw [here] at view
    cases view
    exact reads.trails
  | timedFrame here reads | receivedFrame here reads =>
    rw [here] at view
    cases view
    exact reads.trails (unfinished _ rfl)
  | silent here =>
    rw [here] at view
    cases view
    cases calm _ rfl
  | broken _ _ _ fails => exact .ends fails.ends.hand
  | crashed _ crashes => exact .ends crashes.ends.hand

theorem Passes.trails {v : View} {reply : Reply} (passes : Passes s reply u)
    (view : s.point.view = some v) (unfinished : ∀ d ∈ v.frame, d.isComplete = false)
    (calm : ∀ f, reply = .fault f → v.frame = none) :
    Trails v.frame (reply.read v.reader) u := by
  obtain polls | ⟨⟨socket, here⟩, opens⟩ := passes.of_view view
  · exact polls.trails view unfinished calm
  · rw [here] at view
    cases view
    cases opens with
    | unnamed _ finishes => exact .ends finishes.ends.hand
    | named => exact .rests rfl trivial nofun
    | found there | shut there => simp [here] at there
    | _ => simp_all [Point.isListening]

end Handover.Session
