import CommandShell.Proofs.World.Opening
import CommandShell.Proofs.World.Printing

/-!
# `CommandShell.Proofs.World.Contents` — what a file holds

A file is followed through everything that happens to it when a builtin is carried out: it is opened for
one stream or for both, and a text is written to one of them. Whatever goes to the file is added to what it
holds, which is nothing if it has just been emptied.

## Contents
- **Contents.** `FileSystem.contentAt?`, and what an opening and a write do to it: `contentAt?_opened` and
  `contentAt?_write`.
- **Files in a world.** `World.FileHolds`, of a file that is not the log; `FileHolds.openTarget` and
  `FileHolds.openBoth` say what the openings of a command do to it.
- **Sinks.** `Sink.Adds`, for a sink that adds to the file if it leads there; kept by `FileHolds.write`.
- **Reports.** A builtin writes to one stream only (`Builtin.run_one_stream`), so that two sinks on one file
  are not in each other's way: `FileHolds.deliver`.
-/

namespace CommandShell

/-! ## Contents -/

/-- Nothing that is there goes away. -/
theorem Node.Written.isSome {n n' : Option Node} (h : Written n n') (hn : n.isSome = true) :
    n'.isSome = true := by
  cases h with
  | kept => exact hn
  | filled => rfl
  | created => rfl

namespace FileSystem

variable {fs fs' : FileSystem} {l : Location} {content : Bytes}

/-- The content of the file at a location. Where nothing is, a file would begin with nothing; what is not
    a file of bytes has no content. -/
def contentAt? (fs : FileSystem) (l : Location) : Option Bytes :=
  match fs.node? l with
  | none => some []
  | some (.file content _) => some content
  | some _ => none

theorem contentAt?_congr (h : fs'.node? l = fs.node? l) : fs'.contentAt? l = fs.contentAt? l := by
  unfold contentAt?
  rw [h]

/-- **An opening** empties a file, unless it is appended to. -/
theorem contentAt?_opened (h : fs.contentAt? l = some content) (append : Bool) :
    (fs.opened l append).contentAt? l = some (if append then content else []) := by
  unfold contentAt? at h ⊢
  rw [node?_opened_self]
  split at h
  · next hnode =>
    cases h
    rw [hnode]
    cases append <;> rfl
  · next hnode =>
    cases h
    rw [hnode]
    rfl
  · cases h

/-- **A write** to the end of a file adds to it. -/
theorem contentAt?_write {h : Handle} (hthere : (fs.node? h.location).isSome = true)
    (hcontent : fs.contentAt? h.location = some content)
    (hend : h.append = true ∨ h.offset = 0 ∧ content = []) (bs : Bytes) :
    (fs.write h bs).1.contentAt? h.location = some (content ++ bs) := by
  by_cases hbs : bs = []
  · subst hbs
    rw [List.append_nil, write, if_pos rfl]
    exact hcontent
  unfold contentAt? at hcontent
  split at hcontent
  · next hnode =>
    rw [hnode] at hthere
    cases hthere
  · next mode hnode =>
    cases hcontent
    have hroot : h.location ≠ [] := ne_root_of_node? hnode (by simp)
    have hplace : content.overwrite (if h.append then content.length else h.offset) bs =
        content ++ bs := by
      rcases hend with happend | ⟨hoffset, hnil⟩
      · rw [if_pos happend, Bytes.overwrite_length]
      · rw [hnil, hoffset, List.length_nil, ite_self, Bytes.overwrite_nil, List.nil_append]
    rw [write, if_neg hbs, hnode, contentAt?]
    dsimp only
    rw [node?_put_self hroot, hplace]
  · cases hcontent

end FileSystem

/-! ## Files in a world -/

namespace World

variable {w w' : World} {l : Location} {content : Bytes}

/-- The file at a location has this content, and is not the log. -/
structure FileHolds (w : World) (l : Location) (content : Bytes) : Prop where
  content : w.files.contentAt? l = some content
  notLog : w.logger.map Logger.location ≠ some l

theorem FileHolds.congr (h : w.FileHolds l content) (hnode : w'.files.node? l = w.files.node? l)
    (hlogger : w'.logger = w.logger) : w'.FileHolds l content :=
  ⟨(FileSystem.contentAt?_congr hnode).trans h.content, hlogger ▸ h.notLog⟩

/-- The log is another file. -/
theorem FileHolds.logged (h : w.FileHolds l content) (hlogged : w.OnlyLogged w') :
    w'.FileHolds l content :=
  h.congr (hlogged.elsewhere l h.notLog) hlogged.logger_eq

theorem openTarget_logger (w : World) (target : Option Path) (append : Bool) :
    (w.openTarget target append).logger = w.logger := by rw [openTarget_rest]

/-- The file after a target has been opened, be it this file or another one. -/
theorem FileHolds.openTarget (h : w.FileHolds l content) (target : Option Path) (append : Bool) :
    (w.openTarget target append).FileHolds l
      (if w.leadsTo? target = some l ∧ append = false then [] else content) := by
  by_cases hleads : w.leadsTo? target = some l
  · refine ⟨?_, (openTarget_logger ..).symm ▸ h.notLog⟩
    rw [World.openTarget, hleads]
    show (w.files.opened l append).contentAt? l = _
    rw [FileSystem.contentAt?_opened h.content]
    cases append <;> simp
  · rw [if_neg fun h => hleads h.1]
    exact h.congr (node?_openTarget_ne hleads) (openTarget_logger ..)

/-- The file after the targets of both streams have been opened. -/
theorem FileHolds.openBoth (h : w.FileHolds l content) (out err : Option Path) (append : Bool) :
    ((w.openTarget out append).openTarget err append).FileHolds l
      (if (w.leadsTo? out = some l ∨ w.leadsTo? err = some l) ∧ append = false then []
        else content) := by
  have hboth := (h.openTarget out append).openTarget err append
  rw [(prepared_openTarget w out append).leadsTo?_eq] at hboth
  by_cases hcut : (w.leadsTo? out = some l ∨ w.leadsTo? err = some l) ∧ append = false
  · obtain ⟨hleads, happend⟩ := hcut
    rw [if_pos ⟨hleads, happend⟩]
    rcases hleads with hout | herr
    · have hfirst : (if w.leadsTo? out = some l ∧ append = false then [] else content) = [] :=
        if_pos ⟨hout, happend⟩
      rw [hfirst, ite_self] at hboth
      exact hboth
    · rw [if_pos ⟨herr, happend⟩] at hboth
      exact hboth
  · rw [if_neg fun h => hcut ⟨.inr h.1, h.2⟩, if_neg fun h => hcut ⟨.inl h.1, h.2⟩] at hboth
    rw [if_neg hcut]
    exact hboth

/-- The world `w'` has the files of `w`, and the same log. -/
structure SameFiles (w w' : World) : Prop where
  files : w'.files = w.files
  logger : w'.logger = w.logger

theorem SameFiles.refl (w : World) : w.SameFiles w := ⟨rfl, rfl⟩

theorem FileHolds.same (h : w.FileHolds l content) (hsame : w.SameFiles w') :
    w'.FileHolds l content := h.congr (by rw [hsame.files]) hsame.logger

/-! ## Sinks -/

theorem setConsole_sameFiles (w : World) (s : Stream) (o : Output) : w.SameFiles (w.setConsole s o) := by
  cases s <;> exact ⟨rfl, rfl⟩

theorem flush_sameFiles (w : World) (sink : Sink) : w.SameFiles (w.flush sink).1 := by
  cases sink with
  | console s => exact setConsole_sameFiles ..
  | file h => exact .refl w

/-- To write nothing is not refused, and changes no file. -/
theorem write_nil_sameFiles (w : World) (sink : Sink) :
    ∃ w', w.write sink [] = (w', sink, none) ∧ w.SameFiles w' := by
  cases sink with
  | console s =>
    refine ⟨w.setConsole s ((w.console s).write []).1, ?_, setConsole_sameFiles ..⟩
    have hnil := Output.write_nil (w.console s)
    unfold write
    dsimp only
    generalize (w.console s).write [] = written at hnil ⊢
    obtain ⟨o, fault⟩ := written
    cases hnil
    rfl
  | file h => exact ⟨w, rfl, .refl w⟩

theorem written_write_sink (w : World) (sink : Sink) (bs : Bytes) :
    w.files.Written (w.write sink bs).1.files := by
  cases sink with
  | console s =>
    show w.files.Written (w.setConsole s _).files
    rw [(setConsole_sameFiles ..).files]
    exact .refl _
  | file h => exact w.files.written_write h bs

end World

namespace Sink

/-- Whether a sink leads to a location. -/
def goesTo (l : Location) : Sink → Bool
  | .console _ => false
  | .file h => h.location == l

/-- If a sink leads to the file at a location, which holds the content, then it writes at the end. -/
def Adds (fs : FileSystem) (l : Location) (content : Bytes) : Sink → Prop
  | .console _ => True
  | .file h => h.location = l →
      (fs.node? l).isSome = true ∧ (h.append = true ∨ h.offset = 0 ∧ content = [])

variable {fs fs' : FileSystem} {l : Location} {content : Bytes} {sink : Sink}

theorem Adds.congr (h : sink.Adds fs l content) (hnode : fs'.node? l = fs.node? l) :
    sink.Adds fs' l content := by
  cases sink with
  | console s => trivial
  | file handle =>
    intro hl
    rw [hnode]
    exact h hl

end Sink

namespace World

variable {w w' : World} {l : Location} {content : Bytes}

/-- **What is written to a sink** is added to the file, if the sink leads there. -/
theorem FileHolds.write {sink : Sink} (h : w.FileHolds l content) (hadds : sink.Adds w.files l content)
    (bs : Bytes) :
    (w.write sink bs).1.FileHolds l (content ++ if sink.goesTo l then bs else []) := by
  cases sink with
  | console s =>
    rw [Sink.goesTo, if_neg Bool.false_ne_true, List.append_nil]
    exact h.same (setConsole_sameFiles ..)
  | file handle =>
    by_cases hl : handle.location = l
    · subst hl
      obtain ⟨hthere, hend⟩ := hadds rfl
      rw [Sink.goesTo, if_pos (beq_self_eq_true _)]
      exact ⟨FileSystem.contentAt?_write hthere h.content hend bs, h.notLog⟩
    · rw [Sink.goesTo, if_neg (by simpa using hl), List.append_nil]
      exact h.congr (FileSystem.node?_write_ne (Ne.symm hl) bs) rfl

end World

/-! ## Reports -/

/-- **A builtin** writes to one of its streams at most. -/
theorem Builtin.run_one_stream (b : Builtin) (settings : Settings) (fs : FileSystem) (wd : Position)
    (args : List Text) :
    (b.run settings fs wd args).out = [] ∨ (b.run settings fs wd args).err = [] := by
  cases b with
  | echo => exact .inr rfl
  | exit => exact .inr rfl
  | type =>
    right
    unfold Builtin.run Builtin.runType
    dsimp only
    split <;> rfl
  | pwd =>
    unfold Builtin.run Builtin.runPwd
    dsimp only
    split
    · exact .inr rfl
    · exact .inl rfl
  | cd =>
    right
    unfold Builtin.run Builtin.runCd
    dsimp only
    split <;> rfl

namespace World

variable {w : World} {l : Location} {content : Bytes}

/-- If one of two texts is empty, then no fault keeps the other one from being written. -/
theorem writeBoth_sameFiles {out err : Sink} {outText errText : Bytes}
    (h : outText = [] ∨ errText = []) (w : World) :
    ((w.write out outText).1.write err errText).1.SameFiles
      (w.writeBoth out err outText errText).1 := by
  unfold writeBoth
  -- the first fault ends the delivery, but then there was nothing more to write
  rcases hout : w.write out outText with ⟨w₁, out', _ | fault⟩
  · dsimp only
    rcases herr : w₁.write err errText with ⟨w₂, err', _ | fault⟩
    · have hfirst := flush_sameFiles w₂ out'
      dsimp only
      rcases hflush : w₂.flush out' with ⟨w₃, _ | fault⟩
      · rw [hflush] at hfirst
        have hsecond := flush_sameFiles w₃ err'
        exact ⟨hsecond.files.trans hfirst.files, hsecond.logger.trans hfirst.logger⟩
      · rw [hflush] at hfirst
        exact hfirst
    · exact .refl w₂
  · rcases h with rfl | rfl
    · -- nothing can always be written
      obtain ⟨w', hnil, -⟩ := write_nil_sameFiles w out
      cases hnil.symm.trans hout
    · obtain ⟨w', hnil, hsame⟩ := write_nil_sameFiles w₁ err
      dsimp only
      rw [hnil]
      exact ⟨hsame.files.symm, hsame.logger.symm⟩

/-- Both texts are added to the file, as far as their sinks lead there. -/
theorem FileHolds.writeBoth {out err : Sink} {outText errText : Bytes} (h : w.FileHolds l content)
    (hout : out.Adds w.files l content) (herr : err.Adds w.files l content)
    (hone : outText = [] ∨ errText = []) :
    (w.writeBoth out err outText errText).1.FileHolds l
      (content ++ ((if out.goesTo l then outText else []) ++ if err.goesTo l then errText else [])) := by
  refine FileHolds.same ?_ (writeBoth_sameFiles hone w)
  rcases hone with rfl | rfl
  · obtain ⟨w', hnil, hsame⟩ := write_nil_sameFiles w out
    have hadds : err.Adds w'.files l content := by
      rw [hsame.files]
      exact herr
    rw [hnil, ite_self, List.nil_append]
    exact (h.same hsame).write hadds errText
  · obtain ⟨w', hnil, hsame⟩ := write_nil_sameFiles (w.write out outText).1 err
    rw [hnil, ite_self, List.append_nil]
    exact (h.write hout outText).same hsame

theorem written_writeBoth {out err : Sink} {outText errText : Bytes}
    (h : outText = [] ∨ errText = []) (w : World) :
    w.files.Written (w.writeBoth out err outText errText).1.files := by
  rw [(writeBoth_sameFiles h w).files]
  exact (written_write_sink w out outText).trans (written_write_sink _ err errText)

/-- Only the log has grown where a report is delivered. -/
theorem deliverAt_onlyLogged (w : World) (r : Report) :
    World.OnlyLogged { w with workDir := r.workDir } (w.deliverAt r) := by
  unfold deliverAt
  cases r.event with
  | none => exact .refl _
  | some event => exact onlyLogged_log _ event

/-- A report with one text at most. -/
theorem encode_one_stream {r : Report} (h : r.out = [] ∨ r.err = []) :
    Utf8.encode r.out = [] ∨ Utf8.encode r.err = [] := by
  rcases h with h | h
  · exact .inl (by rw [h]; rfl)
  · exact .inr (by rw [h]; rfl)

/-- **A report is added to the file**, as far as the sinks of its streams lead there. -/
theorem FileHolds.deliver {r : Report} {out err : Sink} (h : w.FileHolds l content)
    (hout : out.Adds w.files l content) (herr : err.Adds w.files l content)
    (hone : r.out = [] ∨ r.err = []) :
    (w.deliver r out err).1.FileHolds l (content ++
      ((if out.goesTo l then Utf8.encode r.out else []) ++
        if err.goesTo l then Utf8.encode r.err else [])) := by
  have hlogged := deliverAt_onlyLogged w r
  have hnode : (w.deliverAt r).files.node? l = w.files.node? l := hlogged.elsewhere l h.notLog
  have hthere : (w.deliverAt r).FileHolds l content := h.congr hnode hlogged.logger_eq
  exact hthere.writeBoth (hout.congr hnode) (herr.congr hnode) (encode_one_stream hone)

theorem written_deliver {r : Report} (h : r.out = [] ∨ r.err = []) (w : World) (out err : Sink) :
    w.files.Written (w.deliver r out err).1.files :=
  (deliverAt_onlyLogged w r).grown.written.trans (written_writeBoth (encode_one_stream h) _)

end World

end CommandShell
