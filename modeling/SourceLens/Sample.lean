import SourceLens.Language

/-! # Sample programs, shown when no file is given -/
namespace SourceLens

/-- The lines of a small ring buffer in C. -/
def ringBufferLines : List String := [
  "// Sample C program: a tiny ring buffer",
  "#include <stdio.h>",
  "",
  "/*",
  " * Fixed-size buffer of recent readings.",
  " */",
  "struct ring \x7b",
  "    int data[8];",
  "    unsigned head;",
  "\x7d;",
  "",
  "static double average(const struct ring *r, int count) \x7b",
  "    long total = 0;",
  "    for (int i = 0; i < count; i++) \x7b",
  "        total += r->data[i];",
  "    \x7d",
  "    return count ? (double)total / count : 0.0;",
  "\x7d",
  "",
  "int main() \x7b",
  "    struct ring buf;",
  "    char *label = \"avg: %f\\n\";",
  "    buf.head = 0;",
  "    buf.data[buf.head++] = 42;",
  "    printf(label, average(&buf, 1));",
  "    return 0; // done",
  "\x7d"]

/-- The lines of a word count in Python. -/
def wordCountLines : List String := [
  "# Sample Python program: word statistics",
  "import sys",
  "",
  "THRESHOLD = 3",
  "",
  "class Counter:",
  "    def __init__(self, words):",
  "        self.words = words",
  "        self.seen = \x7b\x7d",
  "",
  "    def count(self):",
  "        for word in self.words:",
  "            self.seen[word] = self.seen.get(word, 0) + 1",
  "        return self.seen",
  "",
  "def report(counts, limit=THRESHOLD):",
  "    \"\"\"",
  "    Print every word seen at least `limit` times.",
  "    \"\"\"",
  "    shown = 0",
  "    for word, n in sorted(counts.items()):",
  "        if n >= limit:",
  "            print(f\"\x7bword\x7d: \x7bn\x7d\")",
  "            shown += 1",
  "    return shown",
  "",
  "if __name__ == \"__main__\":",
  "    text = sys.stdin.read()",
  "    total = report(Counter(text.split()).count())",
  "    print('matched', total)"]

def ofLines (lines : List String) : String := String.join (lines.map fun line => line ++ "\n")

def Language.sample : Language → String
  | .cLike => ofLines ringBufferLines
  | .python => ofLines wordCountLines

end SourceLens
