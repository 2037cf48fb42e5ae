import RuntimeImage.Proofs.Shell
import RuntimeImage.Provision.Session

/-!
The command lines that provisioning hands to a shell. Each is a template with arguments in it, which
can be any texts: digests, paths and files are carried to the command as they are.
-/

namespace RuntimeImage

open Shell

variable (sha256 archive installRoot runtime script log : String)

def Archive.verifyParts : List Part :=
  [.fixed "echo", .argument (sha256 ++ "  " ++ archive), .fixed "|", .fixed "sha256sum",
    .fixed "-c", .fixed "-"]

def Archive.unpackParts : List Part :=
  [.fixed "tar", .fixed "zxf", .argument archive, .fixed "--strip-components", .fixed "1",
    .fixed "-C", .argument installRoot, .fixed "&&", .fixed "rm", .argument archive]

def MirrorSetup.launchParts : List Part :=
  [.fixed "nohup", .argument runtime, .argument script, .fixed ">", .argument log, .fixed "2>&1",
    .fixed "&"]

theorem Archive.carries_verifyCommand :
    Carries (verifyCommand sha256 archive) (verifyParts sha256 archive) := by
  refine carries_of_toList ?_ ?_
  · simp [verifyCommand, verifyParts, Part.chars]
  · exact List.all_eq_true.mp rfl

theorem Archive.carries_unpackCommand :
    Carries (unpackCommand archive installRoot) (unpackParts archive installRoot) := by
  -- The fixed words of the template go through the quoting too, which leaves them as they are.
  have hbare : ∀ w ∈ ["tar", "zxf", "--strip-components", "1", "-C", "rm"], word w = w := by
    decide
  refine carries_of_toList ?_ ?_
  · simp only [List.forall_mem_cons] at hbare
    simp [unpackCommand, unpackParts, Part.chars, Shell.line, hbare]
  · exact List.all_eq_true.mp rfl

theorem MirrorSetup.carries_launchCommand :
    Carries (launchCommand runtime script log) (launchParts runtime script log) := by
  refine carries_of_toList ?_ ?_
  · simp [launchCommand, launchParts, Part.chars, Shell.line]
  · exact List.all_eq_true.mp rfl

/-- What the shell makes of the three command lines, whatever texts are put into them: it splits
them into the words of the template and the arguments, each in one word of its own; all that means
something to it belongs to the template. -/
theorem commands_carry_arguments :
    (∀ sha256 archive,
      split (Archive.verifyCommand sha256 archive) =
          some ["echo", sha256 ++ "  " ++ archive, "|", "sha256sum", "-c", "-"] ∧
        Carries (Archive.verifyCommand sha256 archive) (Archive.verifyParts sha256 archive)) ∧
    (∀ archive installRoot,
      split (Archive.unpackCommand archive installRoot) =
          some ["tar", "zxf", archive, "--strip-components", "1", "-C", installRoot, "&&", "rm",
            archive] ∧
        Carries (Archive.unpackCommand archive installRoot)
          (Archive.unpackParts archive installRoot)) ∧
    ∀ runtime script log,
      split (MirrorSetup.launchCommand runtime script log) =
          some ["nohup", runtime, script, ">", log, "2>&1", "&"] ∧
        Carries (MirrorSetup.launchCommand runtime script log)
          (MirrorSetup.launchParts runtime script log) := by
  refine ⟨fun sha256 archive => ?_, fun archive installRoot => ?_, fun runtime script log => ?_⟩
  · have hcarries := Archive.carries_verifyCommand sha256 archive
    exact ⟨split_of_carries hcarries, hcarries⟩
  · have hcarries := Archive.carries_unpackCommand archive installRoot
    exact ⟨split_of_carries hcarries, hcarries⟩
  · have hcarries := MirrorSetup.carries_launchCommand runtime script log
    exact ⟨split_of_carries hcarries, hcarries⟩

end RuntimeImage
