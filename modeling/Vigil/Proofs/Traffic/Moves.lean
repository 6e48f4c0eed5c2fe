import Vigil.Proofs.Traffic.Story

/-!
# Moves

What a step has to do with a single worker, and why: a letter comes into a mailbox since the
registry is waiting to deliver it or since somebody is asking, and all else the worker does itself.
-/

namespace Vigil.Traffic

/-- How the worker number `serial` comes out of a step from a state. -/
inductive Move (s : Settings) (σ : State) (serial : Nat) : Option Post → Post → Prop where
  | rest (p) : Move s σ serial (some p) p
  | start (machine : String) : Move s σ serial none (.start s machine σ.now)
  | deliver {p machine r} (phase : σ.phase = .delivering serial machine r) :
      Move s σ serial (some p) (p.put (.report machine r))
  | ask {p client} (asking : (client, serial) ∈ σ.asking) :
      Move s σ serial (some p) (p.put (.query client))
  | tell (p) : Move s σ serial (some p) p.tellToStop
  | work {p marks p'} (step : WorkerStep s σ.now serial p marks p') : Move s σ serial (some p) p'

section

variable {s : Settings} {σ σ' : State} {log marks : Log} {serial : Nat} {p p' : Post}

theorem Move.of_withPost {number : Nat} {q q' : Post} (hpost : σ.posts[number]? = some q)
    (move : Move s σ number (some q) q') (h : (σ.withPost number q').posts[serial]? = some p') :
    Move s σ serial σ.posts[serial]? p' := by
  rw [posts_withPost hpost] at h
  split at h
  next hserial =>
    subst hserial
    cases h
    rw [hpost]
    exact move
  next =>
    rw [h]
    exact .rest _

theorem Move.of_tell (posts : List Post) (told : Nat)
    (h : (posts.modify told Post.tellToStop)[serial]? = some p') :
    Move s σ serial posts[serial]? p' := by
  rw [List.getElem?_modify] at h
  obtain ⟨p, hpost, rfl⟩ := Option.map_eq_some_iff.1 h
  rw [hpost]
  split
  · exact .tell p
  · exact .rest p

/-- The message that is routed has been taken out of the ingress before. -/
theorem Routed.move {m : Message} {rest : List Message}
    (h : Routed s m { σ with ingress := rest } σ' marks) (hpost : σ'.posts[serial]? = some p') :
    Move s σ serial σ.posts[serial]? p' := by
  cases h with
  | report | unknown =>
    rw [hpost]
    exact .rest _
  | first message unregistered =>
    rcases Nat.lt_or_ge serial σ.posts.length with hlt | hge
    · rw [List.getElem?_append_left hlt] at hpost
      rw [hpost]
      exact .rest _
    · rw [List.getElem?_append_right hge, List.getElem?_singleton] at hpost
      rw [List.getElem?_eq_none hge]
      split at hpost
      · cases hpost
        exact .start _
      · cases hpost
  | delete message registered => exact .of_tell σ.posts _ hpost

theorem Step.move (h : Step s σ marks σ') (hpost : σ'.posts[serial]? = some p') :
    Move s σ serial σ.posts[serial]? p' := by
  cases h with
  | take idle message routed => exact (routed_of_route routed).move hpost
  | deliver phase post running room => exact .of_withPost post (.deliver phase) hpost
  | dismiss phase known => exact .of_tell σ.posts _ hpost
  | ask asking post running room =>
    refine .of_withPost post (.ask ?_) hpost
    rw [asking]
    exact List.mem_append_right _ List.mem_cons_self
  | work post step => exact .of_withPost post (.work step) hpost
  | _ =>
    have hsame : σ.posts[serial]? = some p' := hpost
    rw [hsame]
    exact .rest _

end

end Vigil.Traffic
