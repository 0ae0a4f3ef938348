import RecordAccess.Operation
import RecordAccess.Template

/-!
# Templates of the generated functions

The Go functions of the five operations. They only place finished values: statements, argument lists
and scan targets come from the context. Every template starts with an empty line.
-/
namespace RecordAccess.Template

def lit (value : String) : Piece := .part (.text value)

def hole (name : String) : Piece := .part (.hole name)

/-- The comment and the name of a function: `verb` and the suffix, and what the comment tells. -/
def opening (verb comment : String) : Template :=
  [lit ("\n// " ++ verb), hole "suffix", lit (" " ++ comment ++ "\nfunc " ++ verb), hole "suffix"]

/-- The end of a function that scans one row. -/
def scanned : Template :=
  [lit ").Scan(", hole "scan", lit ")\n\n\treturn &y, err\n\x7d\n"]

/-- The start of a function's body that queries one row, up to the statement's end. -/
def queried : Template :=
  [lit "(*", hole "model", lit ", error) \x7b\n\tvar y ", hole "model",
    lit "\n\terr := db.QueryRow(\n\t\t`", hole "query", lit "`,"]

def create : Template :=
  opening "Create" "inserts an entry into DB" ++
  [lit "(db cruderQueryRower, x ", hole "model", lit ") "] ++ queried ++
  [.shownIf "args" [.text "\n\t\t", .hole "args", .text ","], lit "\n\t"] ++ scanned

def get : Template :=
  opening "Get" "returns a single entry from DB based on primary key" ++
  [lit "(db cruderQueryRower, id interface\x7b\x7d) "] ++ queried ++
  [lit "\n\t\tid,\n\t"] ++ scanned

/-- The function that fetches a page of entries. It joins its statement at run time from the static
selection, the clause that leaves deleted rows out, the caller's filter and order, and the limits. -/
def list : Template :=
  opening "List"
    "returns a list of entries from DB based on passed in limit, offset, filters and sorting" ++
  [lit ("(db cruderQueryer, limit, offset uint64, filter cruderSQLFilter, " ++
      "sorter cruderSQLSorter) ([]"),
    hole "model",
    lit ", error) \x7b\n\tvar args []interface\x7b\x7d\n\tsqlParts := []string\x7b`",
    hole "select", lit "`\x7d",
    .shownIf "soft_delete_where"
      [.text "\n\tsqlParts = append(sqlParts, `", .hole "soft_delete_where", .text "`)"],
    lit ("\n\n\tif filter != nil \x7b\n" ++
      "\t\tif filters, filterArgs := filter.Where(); filters != \"\" \x7b\n" ++
      "\t\t\tsqlParts = append(sqlParts, \""),
    hole "filter_join",
    lit (" \"+filters)\n\t\t\targs = append(args, filterArgs...)\n\t\t\x7d\n\t\x7d\n\n" ++
      "\tif sorter != nil \x7b\n" ++
      "\t\tif orderBy := sorter.OrderBy(); orderBy != \"\" \x7b\n" ++
      "\t\t\tsqlParts = append(sqlParts, \"ORDER BY \"+orderBy)\n\t\t\x7d\n\t\x7d\n\n" ++
      "\tif limit > 0 \x7b\n" ++
      "\t\tsqlParts = append(sqlParts, fmt.Sprintf(\"LIMIT %d\", limit))\n\t\x7d\n" ++
      "\tif offset > 0 \x7b\n" ++
      "\t\tsqlParts = append(sqlParts, fmt.Sprintf(\"OFFSET %d\", offset))\n\t\x7d\n\n" ++
      "\trows, err := db.Query(\n\t\tstrings.Join(sqlParts, \" \"),\n\t\targs...,\n\t)\n" ++
      "\tif err != nil \x7b\n\t\treturn nil, err\n\t\x7d\n\tdefer rows.Close()\n\n" ++
      "\tr := make([]"),
    hole "model", lit ", 0)\n\tfor rows.Next() \x7b\n\t\tvar e ", hole "model",
    lit "\n\t\tif err := rows.Scan(", hole "scan",
    lit ("); err != nil \x7b\n\t\t\treturn nil, err\n\t\t\x7d\n\t\tr = append(r, e)\n\t\x7d\n\n" ++
      "\treturn r, rows.Err()\n\x7d\n")]

def update : Template :=
  opening "Update" "updates an entry in DB" ++
  [lit "(db cruderQueryRower, x ", hole "model", lit ") "] ++ queried ++
  [lit "\n\t\t", hole "args", lit ",\n\t"] ++ scanned

def delete : Template :=
  opening "Delete" "deletes an entry from DB" ++
  [lit ("(db cruderExecer, id interface\x7b\x7d) error \x7b\n" ++
      "\tresult, err := db.Exec(\n\t\t`"),
    hole "query",
    lit ("`,\n\t\tid,\n\t)\n\tif err != nil \x7b\n\t\treturn err\n\t\x7d\n\n" ++
      "\tr, err := result.RowsAffected()\n\tif err != nil \x7b\n\t\treturn err\n\t\x7d\n" ++
      "\tif r == 0 \x7b\n\t\treturn ErrNoRowsAffected\n\t\x7d\n\n\treturn nil\n\x7d\n")]

def ofOperation : Operation → Template
  | .create => create
  | .get => get
  | .list => list
  | .update => update
  | .delete => delete

/-- The template of the operation of exactly that name. -/
def named (name : String) : Except GenerationError Template :=
  match Operation.named? name with
  | some operation => .ok (ofOperation operation)
  | none => .error (.templateNotFound name)

end RecordAccess.Template
