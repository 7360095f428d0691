import SqlTutor.Course.Task
import SqlTutor.Text.Quoted

/-!
The exercises of the course, in the order of its modules.
-/
namespace SqlTutor.Course

open Query

/-- A task of one module, with the text that its editor starts with and an answer. -/
structure Exercise extends Task where
  moduleId : String
  starterCode : String
  solution : String

namespace Exercise

def selectAll : Exercise where
  id := "ex1"
  moduleId := "data-flow-basics"
  prompt := "Select all columns from the users table to see what data we have:"
  hint := "Use SELECT * FROM tablename"
  starterCode := "SELECT "
  solution := "SELECT * FROM users"
  accepts r := r.rows.length == 4

def selectColumns : Exercise where
  id := "crud-select"
  moduleId := "crud-concepts"
  prompt := "Select just the name and email columns from users:"
  hint := "List specific columns instead of using *"
  starterCode := "SELECT "
  solution := "SELECT name, email FROM users"
  accepts r :=
    firstRow r fun row => row.contains "name" && row.contains "email" && !row.contains "id"

def filterRole : Exercise where
  id := "crud-where"
  moduleId := "crud-concepts"
  prompt := "Find users with the role 'admin':"
  hint := "Use WHERE role = 'value'"
  starterCode := "SELECT * FROM users WHERE "
  solution := "SELECT * FROM users WHERE role = 'admin'"
  accepts r := r.rows.length == 1 && firstRow r fun row => textAt? row "role" == some "admin"

def insertUser : Exercise where
  id := "crud-insert"
  moduleId := "crud-concepts"
  prompt := "Insert a new user and get the inserted row back using RETURNING:"
  hint := "INSERT INTO table (cols) VALUES (vals) RETURNING *"
  starterCode := "INSERT INTO users (name, email) VALUES ('Test', 'test@ex.com') "
  solution := "INSERT INTO users (name, email) VALUES ('Test', 'test@ex.com') RETURNING *"
  accepts r := !r.rows.isEmpty && mentionsReturning r

def combineConditions : Exercise where
  id := "where-multiple"
  moduleId := "where-filtering"
  prompt := "Find posts that are published AND have user_id = 1:"
  hint := "Combine conditions with AND"
  starterCode := "SELECT * FROM posts WHERE "
  solution := "SELECT * FROM posts WHERE published = true AND user_id = 1"
  accepts r :=
    r.rows.length == 2 &&
      r.rows.all fun row => holds row "published" (.bool true) && holds row "user_id" (.int 1)

def matchText : Exercise where
  id := "where-like"
  moduleId := "where-filtering"
  prompt := "Find posts with 'SQL' anywhere in the title:"
  hint := "Use LIKE with % wildcards: LIKE '%pattern%'"
  starterCode := "SELECT * FROM posts WHERE title "
  solution := "SELECT * FROM posts WHERE title LIKE '%SQL%'"
  accepts r :=
    !r.rows.isEmpty &&
      r.rows.all fun row =>
        (textAt? row "title").any fun title => Text.occursIn "SQL".toList title.toList

def joinTables : Exercise where
  id := "join-basic"
  moduleId := "join-flow"
  prompt := "Join users with posts to see who wrote each post:"
  hint := "SELECT ... FROM users JOIN posts ON users.id = posts.user_id"
  starterCode := "SELECT users.name, posts.title FROM users "
  solution :=
    "SELECT users.name, posts.title FROM users JOIN posts ON users.id = posts.user_id"
  accepts r :=
    r.rows.length == 5 && firstRow r fun row => hasText row "name" && hasText row "title"

def filterJoin : Exercise where
  id := "join-filter"
  moduleId := "join-flow"
  prompt := "Join users with posts, but only show published posts:"
  hint := "Add WHERE after the JOIN"
  starterCode :=
    "SELECT users.name, posts.title FROM users JOIN posts ON users.id = posts.user_id "
  solution :=
    "SELECT users.name, posts.title FROM users JOIN posts ON users.id = posts.user_id " ++
      "WHERE posts.published = true"
  accepts r :=
    r.rows.length == 4 && r.rows.all fun row => textAt? row "title" != some "Draft Post"

def countGroups : Exercise where
  id := "agg-count"
  moduleId := "aggregation"
  prompt := "Count how many posts each user has (group by user_id):"
  hint := "SELECT column, COUNT(*) FROM table GROUP BY column"
  starterCode := "SELECT user_id, "
  solution := "SELECT user_id, COUNT(*) FROM posts GROUP BY user_id"
  accepts r := 3 ≤ r.rows.length && firstRow r fun row => row.contains "count"

def countTotal : Exercise where
  id := "agg-total"
  moduleId := "aggregation"
  prompt := "Find the total number of comments in the database:"
  hint := "Use COUNT(*) without GROUP BY for a total"
  starterCode := "SELECT "
  solution := "SELECT COUNT(*) FROM comments"
  accepts r := firstRow r fun row => holds row "count" (.int 5)

/-- Accepted when the first row was not created before the last one. -/
def orderByDate : Exercise where
  id := "pg-types-1"
  moduleId := "pg-types"
  prompt := "Select all users, ordered by when they were created (newest first):"
  hint := "ORDER BY column DESC"
  starterCode := "SELECT * FROM users "
  solution := "SELECT * FROM users ORDER BY created_at DESC"
  accepts r :=
    match r.rows.head?.bind (textAt? · "created_at"), r.rows.getLast?.bind (textAt? · "created_at")
    with
    | some newest, some oldest => compare newest oldest != .lt
    | _, _ => false

def insertReturning : Exercise where
  id := "returning-insert"
  moduleId := "returning-clause"
  prompt := "Insert a new user and get the full row back:"
  hint := "Add RETURNING * at the end"
  starterCode := "INSERT INTO users (name, email) VALUES ('New User', 'new@ex.com') "
  solution := "INSERT INTO users (name, email) VALUES ('New User', 'new@ex.com') RETURNING *"
  accepts := mentionsReturning

def updateReturning : Exercise where
  id := "returning-update"
  moduleId := "returning-clause"
  prompt := "Update a user and get the updated row back:"
  hint := "RETURNING works with UPDATE too"
  starterCode := "UPDATE users SET role = 'admin' WHERE id = 2 "
  solution := "UPDATE users SET role = 'admin' WHERE id = 2 RETURNING *"
  accepts := mentionsReturning

def all : List Exercise :=
  [selectAll, selectColumns, filterRole, insertUser, combineConditions, matchText, joinTables,
   filterJoin, countGroups, countTotal, orderByDate, insertReturning, updateReturning]

def find? (id : String) : Option Exercise := all.find? fun e => e.id == id

def ofModule (moduleId : String) : List Exercise := all.filter fun e => e.moduleId == moduleId

/-- A short description for developers. -/
def summary (e : Exercise) : String :=
  String.ofList <|
    "Exercise ".toList ++ ['\x7b'] ++ " id: ".toList ++ Text.quoted e.id.toList ++
      ", module: ".toList ++ Text.quoted e.moduleId.toList ++ ", solution: ".toList ++
      Text.quoted e.solution.toList ++ ", .. ".toList ++ ['\x7d']

end Exercise

end SqlTutor.Course
