/-!
# Example sources

One example source for each language, shown when the language is first chosen.
-/

namespace Arboretum

namespace Template

def css : String :=
    "@import url(\"theme.css\");\n" ++
    "\n" ++
    ":root \x7b\n" ++
    "  --accent: #42b883;\n" ++
    "\x7d\n" ++
    "\n" ++
    ".button:hover > span \x7b\n" ++
    "  color: var(--accent);\n" ++
    "  margin: 0 auto !important;\n" ++
    "\x7d\n" ++
    "\n" ++
    "@media (max-width: 600px) \x7b\n" ++
    "  .button \x7b display: none; \x7d\n" ++
    "\x7d\n"

def javascript : String :=
    "import \x7b readFile \x7d from 'node:fs/promises'\n" ++
    "\n" ++
    "export async function loadConfig(path) \x7b\n" ++
    "  const text = await readFile(path, 'utf8')\n" ++
    "  return JSON.parse(text)\n" ++
    "\x7d\n" ++
    "\n" ++
    "const greet = (name = 'world') => `Hello, $\x7bname\x7d!`\n" ++
    "console.log(greet())\n"

def typescript : String :=
    "interface User \x7b\n" ++
    "  id: number\n" ++
    "  name: string\n" ++
    "  email?: string\n" ++
    "\x7d\n" ++
    "\n" ++
    "export function displayName(user: User): string \x7b\n" ++
    "  return user.email ? `$\x7buser.name\x7d <$\x7buser.email\x7d>` : user.name\n" ++
    "\x7d\n" ++
    "\n" ++
    "type Handler<T> = (event: T) => void\n"

def python : String :=
    "from dataclasses import dataclass\n" ++
    "\n" ++
    "\n" ++
    "@dataclass\n" ++
    "class Point:\n" ++
    "    x: float\n" ++
    "    y: float\n" ++
    "\n" ++
    "    def norm(self) -> float:\n" ++
    "        return (self.x ** 2 + self.y ** 2) ** 0.5\n" ++
    "\n" ++
    "\n" ++
    "print(Point(3, 4).norm())\n"

def rust : String :=
    "use std::collections::HashMap;\n" ++
    "\n" ++
    "#[derive(Debug, Default)]\n" ++
    "pub struct Counter \x7b\n" ++
    "    counts: HashMap<String, usize>,\n" ++
    "\x7d\n" ++
    "\n" ++
    "impl Counter \x7b\n" ++
    "    pub fn add(&mut self, word: &str) \x7b\n" ++
    "        *self.counts.entry(word.to_string()).or_default() += 1;\n" ++
    "    \x7d\n" ++
    "\x7d\n"

def go : String :=
    "package main\n" ++
    "\n" ++
    "import \"fmt\"\n" ++
    "\n" ++
    "type Shape interface \x7b\n" ++
    "\tArea() float64\n" ++
    "\x7d\n" ++
    "\n" ++
    "type Square struct\x7b Side float64 \x7d\n" ++
    "\n" ++
    "func (s Square) Area() float64 \x7b return s.Side * s.Side \x7d\n" ++
    "\n" ++
    "func main() \x7b\n" ++
    "\tfmt.Println(Square\x7bSide: 2\x7d.Area())\n" ++
    "\x7d\n"

end Template

end Arboretum
