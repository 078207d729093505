import DryRun.Console.Grid
import DryRun.Console.Panel
import DryRun.Job.Basic
import DryRun.Job.Report

/-!
# What the console shows

The lines in which a report and a list of statements are shown on a console. The texts of statements and
the names of tables are read as markup, so that a tag in them may be an error.
-/

namespace DryRun.Console

def printed (s : Screen) (t : Text) : Except Markup.Error (List Text) :=
  (s.drawn t).map (wrap .natural .fold s.width)

/-- No line goes beyond the edge of the console. -/
def shown (width : Nat) (lines : List Text) : List Text := lines.map (truncate .fold width)

/-- The lines of several parts, one after the other. -/
def together (parts : List (Except Markup.Error (List Text))) : Except Markup.Error (List Text) :=
  (parts.mapM id).map List.flatten

/-! ## Reports -/

def countsPanel (r : Report) : Panel :=
  ⟨"Mock sinks".toList,
   "[bold]Inserts rewritten:[/bold] ".toList ++ Text.ofInt r.insertsRedirected ++
    "\n[bold]Mock DDL generated:[/bold] ".toList ++ Text.ofInt r.ddlMocked⟩

/-- Whether the definition of a table was replaced. -/
def ddlMark (r : Report) (table : Text) : Text :=
  if r.tablesWithoutDdl.contains table then "[yellow]missing[/yellow]".toList
  else "[green]yes[/green]".toList

def tablesGrid (r : Report) : Grid :=
  { title := "Sink tables (".toList ++ Text.ofNat r.mockedTables.length ++ ")".toList
    columns :=
      [{ header := "Table".toList, cells := r.mockedTables },
       { header := "Mock DDL".toList, cells := r.mockedTables.map (ddlMark r) }] }

def droppedLine (statement : Text) : Text :=
  "[red]Dropped unparseable transform:[/red] ".toList ++ statement

/-- The line of a definition that was kept because it could not be read. -/
def unparsedLine (statement : Text) : Text :=
  "[yellow]Kept unparseable DDL unchanged:[/yellow] ".toList ++ statement

def disabledLine : Text := "[dim]Sink mocking disabled; job left unchanged.[/dim]".toList

def reportLines (s : Screen) (r : Report) : Except Markup.Error (List Text) :=
  (if r.enabled then
    together
      ([(countsPanel r).lines s] ++
        (if r.mockedTables.isEmpty then [] else [(tablesGrid r).lines s]) ++
        r.droppedStatements.map (fun t => printed s (droppedLine t)) ++
        r.unparsedDdl.map (fun t => printed s (unparsedLine t)))
  else printed s disabledLine).map (shown s.width)

/-! ## Statements -/

/-- The table of statements with their numbers and declared types. -/
def statementsGrid (title : Text) (statements : List JobStatement) : Grid :=
  { title
    ruled := true
    columns :=
      [{ header := "#".toList, align := .right
         cells := (List.range statements.length).map fun i => Text.ofNat (i + 1) },
       { header := "Type".toList, cells := statements.map (·.type.label) },
       { header := "Statement".toList, overflow := .fold, cells := statements.map (·.value) }] }

/-- The lines of a list of statements; an empty list takes none. -/
def statementLines (s : Screen) (title : Text) (statements : List JobStatement) :
    Except Markup.Error (List Text) :=
  if statements.isEmpty then .ok []
  else ((statementsGrid title statements).lines s).map (shown s.width)

end DryRun.Console
