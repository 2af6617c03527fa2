import RollPad.Proofs.Log.Records

/-!
What the log writes for its records. Set-ups leave no handler, one for the console, or one for the
console and then one for a file (`Arranged`). A record then adds to each sink the one line of the
handler for it, or nothing if the record does not reach the root level or that handler or cannot be
shown (`Host.lineAt`); of each handler that cannot show it the console gets a report
(`Host.reportsAt`). What is written never depends on what was written before
(`Host.Logs.contentAt_eq`). Files only grow (`Host.Logs.extends`).
-/

namespace RollPad

open Log

/-! ### Texts that go on -/

/-- Every text of `t` is under its name in `t'`, with nothing or something behind it. -/
def NameTable.Extends (t t' : NameTable) : Prop :=
  ∀ name text, t.get? name = some text → ∃ more, t'.get? name = some (text ++ more)

namespace NameTable

theorem Extends.refl (t : NameTable) : t.Extends t :=
  fun _ _ h => ⟨"", by rw [h, String.append_empty]⟩

theorem Extends.trans {t t' t'' : NameTable} (a : t.Extends t') (b : t'.Extends t'') :
    t.Extends t'' := by
  intro name text h
  obtain ⟨more, h'⟩ := a name text h
  obtain ⟨rest, h''⟩ := b name _ h'
  exact ⟨more ++ rest, by rw [h'', String.append_assoc]⟩

theorem extends_append (t : NameTable) (name text : String) : t.Extends (t.append name text) := by
  intro other content h
  rw [append, get?_insert]
  split
  · next heq => exact ⟨text, by rw [heq, h, Option.getD_some]⟩
  · exact Extends.refl t other content h

end NameTable

namespace Host

/-! ### Files only grow -/

theorem extends_write (h : Host) (text : String) (sink : Sink) :
    h.files.Extends (h.write text sink).files := by
  cases sink with
  | console => exact .refl _
  | file name => exact h.files.extends_append name text

theorem extends_deliver (r : Record) (h : Host) (f : Handler) :
    h.files.Extends (deliver r h f).files := by
  unfold deliver
  cases f.outcome r with
  | passed => exact .refl _
  | line text => exact h.extends_write text f.sink
  | failed => exact .refl _

theorem extends_deliverAll (r : Record) (handlers : List Handler) (h : Host) :
    h.files.Extends (deliverAll handlers r h).files := by
  induction handlers generalizing h with
  | nil => exact .refl _
  | cons f rest ih =>
    rw [deliverAll_cons]
    exact (extends_deliver r h f).trans (ih _)

theorem extends_emit (h : Host) (r : Record) : h.files.Extends (h.emit r).files := by
  simp only [emit]
  split
  · exact extends_deliverAll _ _ { h with calls := h.calls + 1 }
  · exact .refl _

theorem extends_emitAll (h : Host) (rs : List Record) : h.files.Extends (h.emitAll rs).files := by
  induction rs generalizing h with
  | nil => exact .refl _
  | cons r rs ih => exact (h.extends_emit r).trans (ih _)

theorem Logs.extends {h h' : Host} {rs : List Record} (a : Logs h rs h') :
    h.files.Extends h'.files := by
  have hfiles := h.logPart.extends_emitAll rs
  rw [← a] at hfiles
  exact hfiles

end Host

/-! ### Handlers in order -/

/-- No handler, one for the console, or one for the console and then one for a file. -/
inductive Arranged : List Handler → Option String → Prop where
  | none : Arranged [] none
  | console {c : Handler} (hc : c.sink = .console) : Arranged [c] none
  | file {c f : Handler} {name : String} (hc : c.sink = .console) (hf : f.sink = .file name) :
      Arranged [c, f] (some name)

namespace Arranged

theorem sinks {handlers : List Handler} {file : Option String} (a : Arranged handlers file) :
    handlers.map Handler.sink = [] ∨ handlers.map Handler.sink = [.console] ∨
      ∃ name, handlers.map Handler.sink = [.console, .file name] := by
  cases a with
  | none => exact .inl rfl
  | console hc => exact .inr (.inl (by simp [hc]))
  | @file c f name hc hf => exact .inr (.inr ⟨name, by simp [hc, hf]⟩)

theorem file_mem_sinks {handlers : List Handler} {file : Option String} (a : Arranged handlers file)
    (name : String) : .file name ∈ handlers.map Handler.sink ↔ file = some name := by
  cases a with
  | none => simp
  | console hc => simp [hc]
  | file hc hf => simp [hc, hf, eq_comm]

end Arranged

/-! ### What one record adds -/

/-- The line that a handler writes, if any. -/
def Log.Handled.text : Handled → String
  | line text => text
  | _ => ""

namespace Host

/-- What has been written to a sink. -/
def contentAt (h : Host) : Sink → String
  | .console => h.console
  | .file name => (h.files.get? name).getD ""

/-- The line that the first of some handlers for a sink writes for a record. -/
def lineOf (handlers : List Handler) (sink : Sink) (r : Record) : String :=
  ((handlers.find? fun f => f.sink = sink).map fun f => (f.outcome r).text).getD ""

/-- The report on a record that a handler cannot show. -/
def reportOf (h : Host) (r : Record) (f : Handler) : String :=
  match f.outcome r with
  | .failed => h.around.report f r
  | _ => ""

/-- The line that the log writes to a sink for a record: that of the handler for the sink, if the
level of the record is positive and reaches both the root level and that of the handler, and if the
handler can show the record; and else nothing. -/
def lineAt (h : Host) (sink : Sink) (r : Record) : String :=
  if h.isEnabled r then lineOf h.receivers sink r else ""

/-- The reports on a record, of all handlers that cannot show it. -/
def reportsAt (h : Host) (r : Record) : String :=
  if h.isEnabled r then String.join (h.receivers.map (h.reportOf r)) else ""

/-- What the log writes to a sink for a record. Reports go to the console. -/
def outputAt (h : Host) (sink : Sink) (r : Record) : String :=
  h.lineAt sink r ++ if sink = .console then h.reportsAt r else ""

theorem contentAt_write (h : Host) (text : String) (target sink : Sink) :
    (h.write text target).contentAt sink =
      h.contentAt sink ++ if target = sink then text else "" := by
  cases target with
  | console => cases sink <;> simp [write, contentAt]
  | file name =>
    cases sink with
    | console => simp [write, contentAt]
    | file other =>
      by_cases hn : name = other
      · simp [write, contentAt, NameTable.append, NameTable.get?_insert, hn]
      · simp [write, contentAt, NameTable.append, NameTable.get?_insert, hn]

theorem contentAt_deliver (r : Record) (h : Host) (f : Handler) (sink : Sink) :
    (deliver r h f).contentAt sink =
      h.contentAt sink ++
        (lineOf [f] sink r ++ if sink = .console then h.reportOf r f else "") := by
  have hline : lineOf [f] sink r = if f.sink = sink then (f.outcome r).text else "" := by
    by_cases hs : f.sink = sink <;> simp [lineOf, hs]
  unfold deliver reportOf
  rw [hline]
  cases f.outcome r with
  | passed => simp [Handled.text]
  | line text => simp [Handled.text, contentAt_write]
  | failed => simp [Handled.text, contentAt_write, eq_comm]

theorem lineOf_cons_of_eq {f : Handler} {sink : Sink} (hf : f.sink = sink) (rest : List Handler)
    (r : Record) : lineOf (f :: rest) sink r = lineOf [f] sink r := by
  simp [lineOf, hf]

theorem lineOf_cons_of_ne {f : Handler} {sink : Sink} (hf : f.sink ≠ sink) (rest : List Handler)
    (r : Record) : lineOf (f :: rest) sink r = lineOf rest sink r := by
  simp [lineOf, hf]

theorem lineOf_of_not_mem {handlers : List Handler} {sink : Sink}
    (hsink : sink ∉ handlers.map Handler.sink) (r : Record) : lineOf handlers sink r = "" := by
  have hnone : handlers.find? (fun f => f.sink = sink) = none := by
    rw [List.find?_eq_none]
    intro f hf heq
    exact hsink (List.mem_map.2 ⟨f, hf, of_decide_eq_true heq⟩)
  rw [lineOf, hnone]
  rfl

/-- The handler for the console is the first, so its line comes before all reports. -/
theorem contentAt_deliverAll {handlers : List Handler} {file : Option String}
    (a : Arranged handlers file) (r : Record) (h : Host) (sink : Sink) :
    (deliverAll handlers r h).contentAt sink = h.contentAt sink ++ (lineOf handlers sink r ++
      if sink = .console then String.join (handlers.map (h.reportOf r)) else "") := by
  cases a with
  | none => simp [deliverAll, lineOf]
  | @console c hc =>
    rw [deliverAll_cons, deliverAll, contentAt_deliver]
    simp
  | @file c f name hc hf =>
    have hreport : (deliver r h c).reportOf r f = h.reportOf r f := by
      rw [reportOf, reportOf, (sameButLog_deliver r h c).around]
    rw [deliverAll_cons, deliverAll_cons, deliverAll, contentAt_deliver, contentAt_deliver, hreport]
    cases sink with
    | console =>
      have hother : lineOf [f] .console r = "" := lineOf_of_not_mem (by simp [hf]) r
      rw [lineOf_cons_of_eq hc [f], hother]
      simp [String.append_assoc]
    | file other =>
      have hother : lineOf [c] (.file other) r = "" := lineOf_of_not_mem (by simp [hc]) r
      rw [lineOf_cons_of_ne (by simp [hc]) [f], hother]
      simp

/-- The last resort is for the console, so the handlers that are given records are in order if those
of the log are. -/
theorem arranged_receivers {h : Host} {file : Option String} (a : Arranged h.handlers file) :
    Arranged h.receivers file := by
  rw [receivers]
  split
  · next hempty =>
    obtain rfl : file = none := by
      rw [List.isEmpty_iff.1 hempty] at a
      cases a
      rfl
    split
    · exact .console rfl
    · exact .none
  · exact a

theorem contentAt_emit {h : Host} {file : Option String} (a : Arranged h.handlers file) (r : Record)
    (sink : Sink) :
    (h.emit r).contentAt sink = h.contentAt sink ++ h.outputAt sink (r.stamped h.stamp) := by
  have henabled : h.isEnabled (r.stamped h.stamp) = h.isEnabled r := rfl
  have hcalled : { h with calls := h.calls + 1 }.contentAt sink = h.contentAt sink := by
    cases sink <;> rfl
  simp only [emit, outputAt, lineAt, reportsAt, henabled]
  split
  · rw [contentAt_deliverAll (arranged_receivers a), hcalled]
    rfl
  · rw [hcalled, ite_self, String.append_empty, String.append_empty]

/-! ### What records add one after another -/

/-- Records as they are made one after another. -/
def stamped (h : Host) (rs : List Record) : List Record :=
  rs.mapIdx fun i r => r.stamped (h.around.clock (h.calls + i))

theorem calls_deliverAll (r : Record) (handlers : List Handler) (h : Host) :
    (deliverAll handlers r h).calls = h.calls := by
  induction handlers generalizing h with
  | nil => rfl
  | cons f rest ih =>
    rw [deliverAll_cons, ih]
    unfold deliver
    cases f.outcome r with
    | line text => cases hsink : f.sink <;> rfl
    | _ => rfl

theorem calls_emit (h : Host) (r : Record) : (h.emit r).calls = h.calls + 1 := by
  simp only [emit]
  split
  · exact calls_deliverAll _ _ _
  · rfl

theorem stamped_cons (h : Host) (r : Record) (rs : List Record) :
    h.stamped (r :: rs) = r.stamped h.stamp :: (h.emit r).stamped rs := by
  rw [stamped, stamped, List.mapIdx_cons, calls_emit, (sameButLog_emit h r).around]
  simp only [Nat.add_zero, Nat.add_assoc, Nat.add_comm 1]
  rfl

theorem SameButLog.receivers_eq {h h' : Host} (a : SameButLog h h') :
    h'.receivers = h.receivers := by
  rw [receivers, receivers, a.handlers, a.around]

theorem SameButLog.isEnabled_eq {h h' : Host} (a : SameButLog h h') :
    h'.isEnabled = h.isEnabled := by
  funext r
  rw [isEnabled, isEnabled, a.rootLevel]

theorem SameButLog.outputAt_eq {h h' : Host} (a : SameButLog h h') :
    h'.outputAt = h.outputAt := by
  have hreport : h'.reportOf = h.reportOf := by
    funext r f
    rw [reportOf, reportOf, a.around]
  funext sink r
  simp only [outputAt, lineAt, reportsAt, a.receivers_eq, a.isEnabled_eq, hreport]

theorem contentAt_emitAll {h : Host} {file : Option String} (a : Arranged h.handlers file)
    (rs : List Record) (sink : Sink) : (h.emitAll rs).contentAt sink =
      h.contentAt sink ++ String.join ((h.stamped rs).map (h.outputAt sink)) := by
  induction rs generalizing h with
  | nil => exact String.append_empty.symm
  | cons r rs ih =>
    have hsame := sameButLog_emit h r
    have hnext : Arranged (h.emit r).handlers file := hsame.handlers ▸ a
    rw [emitAll, List.foldl_cons, ← emitAll, ih hnext, contentAt_emit a, hsame.outputAt_eq,
      stamped_cons, List.map_cons, String.join_cons, String.append_assoc]

theorem contentAt_logPart (h : Host) (sink : Sink) :
    h.logPart.contentAt sink = h.contentAt sink := by
  cases sink <;> rfl

theorem Logs.contentAt_eq {h h' : Host} {rs : List Record} (a : Logs h rs h')
    {file : Option String} (harranged : Arranged h.handlers file) (sink : Sink) :
    h'.contentAt sink =
      h.contentAt sink ++ String.join ((h.stamped rs).map (h.outputAt sink)) := by
  have hpart : Arranged h.logPart.handlers file := harranged
  rw [← contentAt_logPart, a, contentAt_emitAll hpart, contentAt_logPart]
  rfl

/-- Records change neither handlers nor levels. -/
theorem Logs.sameButLog_logPart {h h' : Host} {rs : List Record} (a : Logs h rs h') :
    SameButLog h.logPart h'.logPart := by
  rw [a]
  exact sameButLog_emitAll _ rs

end Host

end RollPad
