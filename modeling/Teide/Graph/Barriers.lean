import Mathlib.Data.List.Nodup
import Mathlib.Tactic.Common
import Teide.Graph.Record

/-!
# Running recorded commands

What barriers and render passes do to the layouts of images. A list of textures with transitions is
brought into new states by a list of barriers, where those between equal states are left out. If a
command buffer goes on to use the textures in their new layouts, the whole of it finds the layouts it
takes the images to be in exactly if every texture was in its old layout (`each_bring_append_iff`).
-/

namespace Teide

open Runs

/-! ### Running commands -/

def runCommand (layouts : Layouts) (command : VkCommand) : Option Layouts :=
  some (command.execute layouts)

def executeAll (layouts : Layouts) (commands : List VkCommand) : Layouts :=
  commands.foldl VkCommand.execute layouts

variable {layouts : Layouts}

theorem exec_runCommand (commands : List VkCommand) :
    exec runCommand layouts commands = some (executeAll layouts commands) := by
  induction commands generalizing layouts with
  | nil => rfl
  | cons command commands ih => exact ih

theorem executeAll_append (commands commands' : List VkCommand) :
    executeAll layouts (commands ++ commands') =
      executeAll (executeAll layouts commands) commands' :=
  List.foldl_append

theorem each_runCommand_singleton {command : VkCommand} :
    Each runCommand VkCommand.LayoutsOk layouts [command] ↔ command.LayoutsOk layouts := by
  simp only [Each, runCommand, and_true]

theorem each_runCommand_append {commands commands' : List VkCommand} :
    Each runCommand VkCommand.LayoutsOk layouts (commands ++ commands') ↔
      Each runCommand VkCommand.LayoutsOk layouts commands ∧
        Each runCommand VkCommand.LayoutsOk (executeAll layouts commands) commands' :=
  each_append (exec_runCommand commands)

theorem endRenderPass_of_forall_ne {attachments : List (AttachmentDescription × Image)}
    {image : Image} (h : ∀ a ∈ attachments, a.2 ≠ image) :
    endRenderPass layouts attachments image = layouts image := by
  rw [endRenderPass]
  induction attachments generalizing layouts with
  | nil => rfl
  | cons a attachments ih =>
    rw [List.foldl_cons, ih fun b hb => h b (List.mem_cons_of_mem a hb),
      Function.update_of_ne (h a List.mem_cons_self).symm]

theorem endRenderPass_of_mem {attachments : List (AttachmentDescription × Image)}
    (hnodup : (attachments.map Prod.snd).Nodup) {a : AttachmentDescription × Image}
    (ha : a ∈ attachments) : endRenderPass layouts attachments a.2 = a.1.finalLayout := by
  induction attachments generalizing layouts with
  | nil => exact absurd ha List.not_mem_nil
  | cons b attachments ih =>
    rw [List.map_cons, List.nodup_cons] at hnodup
    rcases List.mem_cons.mp ha with rfl | ha
    · have hne : ∀ b ∈ attachments, b.2 ≠ a.2 := by
        intro b hb heq
        apply hnodup.1
        rw [← heq]
        exact List.mem_map_of_mem hb
      exact (endRenderPass_of_forall_ne hne).trans (Function.update_self _ _ _)
    · exact ih hnodup.2 ha

/-! ### Barriers -/

/-- The barriers for a list of textures with transitions. -/
def bring (transitions : List (VulkanTexture × TextureStateTransition)) : List VkCommand :=
  transitions.flatMap fun p => p.1.transition p.2

variable {texture : VulkanTexture} {transition : TextureStateTransition}
  {transitions : List (VulkanTexture × TextureStateTransition)}

theorem each_transition_iff : Each runCommand VkCommand.LayoutsOk layouts (texture.transition transition) ↔
    transition.new ≠ transition.old → layouts texture.image = transition.old.layout := by
  unfold VulkanTexture.transition
  split_ifs with h
  · rw [each_runCommand_singleton]
    exact ⟨fun hlayout _ => hlayout, fun hlayout => hlayout h⟩
  · exact iff_of_true trivial fun hne => absurd hne h

/-- If a texture is in the old layout of a transition, it is taken to the new one. -/
theorem executeAll_transition (h : layouts texture.image = transition.old.layout) :
    executeAll layouts (texture.transition transition) =
      Function.update layouts texture.image transition.new.layout := by
  unfold VulkanTexture.transition
  split_ifs with hne
  · rfl
  · rw [not_not.mp hne, ← h, Function.update_eq_self]
    rfl

theorem executeAll_transition_of_ne {image : Image} (h : image ≠ texture.image) :
    executeAll layouts (texture.transition transition) image = layouts image := by
  unfold VulkanTexture.transition
  split_ifs
  · exact Function.update_of_ne h _ _
  · rfl

theorem executeAll_bring_of_forall_ne {image : Image} (h : ∀ p ∈ transitions, p.1.image ≠ image) :
    executeAll layouts (bring transitions) image = layouts image := by
  induction transitions generalizing layouts with
  | nil => rfl
  | cons p transitions ih =>
    rw [bring, List.flatMap_cons, executeAll_append]
    refine (ih fun p' hp' => h p' (List.mem_cons_of_mem p hp')).trans ?_
    exact executeAll_transition_of_ne (h p List.mem_cons_self).symm

theorem image_ne_of_nodup_cons {p q : VulkanTexture × TextureStateTransition}
    (hnodup : ((q :: transitions).map fun p => p.1.image).Nodup) (hp : p ∈ transitions) :
    p.1.image ≠ q.1.image := by
  rw [List.map_cons, List.nodup_cons] at hnodup
  intro heq
  apply hnodup.1
  rw [← heq]
  exact List.mem_map_of_mem hp

/-- From their old layouts, textures are taken to their new ones. -/
theorem executeAll_bring (hnodup : (transitions.map fun p => p.1.image).Nodup)
    (hold : ∀ p ∈ transitions, layouts p.1.image = p.2.old.layout)
    {p : VulkanTexture × TextureStateTransition} (hp : p ∈ transitions) :
    executeAll layouts (bring transitions) p.1.image = p.2.new.layout := by
  induction transitions generalizing layouts with
  | nil => exact absurd hp List.not_mem_nil
  | cons q transitions ih =>
    rw [bring, List.flatMap_cons, executeAll_append, executeAll_transition (hold q List.mem_cons_self)]
    rcases List.mem_cons.mp hp with rfl | hp
    · exact (executeAll_bring_of_forall_ne fun _ h => image_ne_of_nodup_cons hnodup h).trans
        (Function.update_self _ _ _)
    · refine ih (List.nodup_cons.mp hnodup).2 (fun p hp => ?_) hp
      rw [Function.update_of_ne (image_ne_of_nodup_cons hnodup hp),
        hold p (List.mem_cons_of_mem q hp)]

/-- Where the old state is the new one, nothing happens. -/
theorem executeAll_bring_of_eq (hnodup : (transitions.map fun p => p.1.image).Nodup)
    {p : VulkanTexture × TextureStateTransition} (hp : p ∈ transitions) (heq : p.2.new = p.2.old) :
    executeAll layouts (bring transitions) p.1.image = layouts p.1.image := by
  induction transitions generalizing layouts with
  | nil => exact absurd hp List.not_mem_nil
  | cons q transitions ih =>
    rw [bring, List.flatMap_cons, executeAll_append]
    rcases List.mem_cons.mp hp with rfl | hp
    · refine (executeAll_bring_of_forall_ne fun _ h => image_ne_of_nodup_cons hnodup h).trans ?_
      rw [VulkanTexture.transition, if_neg (not_not_intro heq)]
      rfl
    · refine (ih (List.nodup_cons.mp hnodup).2 hp).trans ?_
      exact executeAll_transition_of_ne (image_ne_of_nodup_cons hnodup hp)

theorem each_bring_iff (hnodup : (transitions.map fun p => p.1.image).Nodup) :
    Each runCommand VkCommand.LayoutsOk layouts (bring transitions) ↔
      ∀ p ∈ transitions, p.2.new ≠ p.2.old → layouts p.1.image = p.2.old.layout := by
  induction transitions generalizing layouts with
  | nil => simp [bring, Each]
  | cons q transitions ih =>
    have hrest : (∀ p ∈ transitions, p.2.new ≠ p.2.old →
        executeAll layouts (q.1.transition q.2) p.1.image = p.2.old.layout) ↔
        ∀ p ∈ transitions, p.2.new ≠ p.2.old → layouts p.1.image = p.2.old.layout := by
      refine forall₂_congr fun p hp => ?_
      rw [executeAll_transition_of_ne (image_ne_of_nodup_cons hnodup hp)]
    rw [bring, List.flatMap_cons, each_runCommand_append, each_transition_iff, List.forall_mem_cons,
      ← hrest]
    exact and_congr_right fun _ => ih (List.nodup_cons.mp hnodup).2

/-- A node that brings textures into new states, and then wants to find them there, does well exactly
if they were in the old layouts. -/
theorem each_bring_append_iff (hnodup : (transitions.map fun p => p.1.image).Nodup)
    {work : List VkCommand}
    (hwork : ∀ layouts, Each runCommand VkCommand.LayoutsOk layouts work ↔
      ∀ p ∈ transitions, layouts p.1.image = p.2.new.layout) :
    Each runCommand VkCommand.LayoutsOk layouts (bring transitions ++ work) ↔
      ∀ p ∈ transitions, layouts p.1.image = p.2.old.layout := by
  rw [each_runCommand_append, each_bring_iff hnodup, hwork]
  constructor
  · rintro ⟨hbarriers, hfound⟩ p hp
    by_cases heq : p.2.new = p.2.old
    · have hlayout := hfound p hp
      rwa [executeAll_bring_of_eq hnodup hp heq, heq] at hlayout
    · exact hbarriers p hp heq
  · intro hold
    exact ⟨fun p hp _ => hold p hp, fun p hp => executeAll_bring hnodup hold hp⟩

end Teide
