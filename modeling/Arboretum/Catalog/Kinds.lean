/-!
# Node kinds

The kinds of a grammar are numbered. `KindTable` is what a grammar says of its numbers; `Kinds` has
the names of the grammars whose trees carry numeric kinds, each at the position of its number.
-/

namespace Arboretum

/-- How many kinds a grammar has, and what it calls each number. It may have names for numbers past
its kinds too, as for nodes that it could not read. -/
structure KindTable where
  count : Nat
  name? : (id : Nat) → Option String

/-- The kinds with the given names, numbered from zero. -/
def KindTable.ofNames (names : Array String) : KindTable := ⟨names.size, fun id => names[id]?⟩

namespace Kinds

set_option maxRecDepth 4000 in
/-- The kinds of the CSS grammar. -/
def css : Array String := #[
  "end", "@import", ",", ";", "@media", "@charset", "@namespace", "@keyframes", "at_keyword",
  "\x7b", "\x7d", "from", "to", "@supports", "nesting_selector", "*", ".", "class_name", "not",
  "class_name", "class_name", "class_name", "class_name", "class_name", "class_name", "::", "#",
  "[", "=", "~=", "^=", "|=", "*=", "$=", "]", ">", "~", "+", "|", "(", ")", "plain_value",
  "plain_value", "of", "plain_value", ":", "important", "(", "and", "or", "only", "selector",
  "color_value_token1", "'", "string_content", "\"", "string_content", "escape_sequence",
  "integer_value_token1", "float_value_token1", "unit", "[", "-", "/", "identifier", "at_keyword",
  "js_comment", "comment", "plain_value", "_descendant_operator", ":", "__error_recovery",
  "stylesheet", "import_statement", "media_statement", "charset_statement", "namespace_statement",
  "keyframes_statement", "keyframe_block_list", "keyframe_block", "supports_statement",
  "postcss_statement", "at_rule", "rule_set", "selectors", "block", "_selector",
  "universal_selector", "class_selector", "pseudo_class_selector",
  "_nth_child_pseudo_class_selector", "pseudo_element_selector", "id_selector",
  "attribute_selector", "child_selector", "descendant_selector", "sibling_selector",
  "adjacent_sibling_selector", "namespace_selector", "arguments", "arguments", "arguments",
  "arguments", "declaration", "declaration", "_query", "feature_query", "parenthesized_query",
  "binary_query", "unary_query", "selector_query", "_value", "parenthesized_value", "color_value",
  "string_value", "integer_value", "float_value", "grid_value", "call_expression",
  "binary_expression", "arguments", "class_name", "stylesheet_repeat1", "import_statement_repeat1",
  "keyframe_block_list_repeat1", "postcss_statement_repeat1", "selectors_repeat1", "block_repeat1",
  "pseudo_class_arguments_repeat1", "declaration_repeat1", "string_value_repeat1",
  "string_value_repeat2", "grid_value_repeat1", "arguments_repeat1", "class_name_repeat1",
  "attribute_name", "feature_name", "function_name", "id_name", "keyframes_name", "keyword_query",
  "namespace_name", "property_name", "tag_name"]

set_option maxRecDepth 4000 in
/-- The kinds of the Rust grammar. -/
def rust : Array String := #[
  "end", "identifier", ";", "macro_rules!", "(", ")", "[", "]", "\x7b", "\x7d", "=>", ":", "$",
  "token_repetition_pattern_token1", "+", "*", "?", "block", "expr", "expr_2021", "ident", "item",
  "lifetime", "literal", "meta", "pat", "pat_param", "path", "stmt", "tt", "ty", "vis",
  "primitive_type", "primitive_type", "primitive_type", "primitive_type", "primitive_type",
  "primitive_type", "primitive_type", "primitive_type", "primitive_type", "primitive_type",
  "primitive_type", "primitive_type", "primitive_type", "primitive_type", "primitive_type",
  "primitive_type", "primitive_type", "-", "/", "%", "^", "!", "&", "|", "&&", "||", "<<", ">>",
  "+=", "-=", "*=", "/=", "%=", "^=", "&=", "|=", "<<=", ">>=", "=", "==", "!=", ">", "<", ">=",
  "<=", "@", "_", ".", "..", "...", "..=", ",", "::", "->", "#", "'", "as", "async", "await",
  "break", "const", "continue", "default", "enum", "fn", "for", "gen", "if", "impl", "let", "loop",
  "match", "mod", "pub", "return", "static", "struct", "trait", "type", "union", "unsafe", "use",
  "where", "while", "extern", "ref", "else", "in", "<", "dyn", "mutable_specifier", "raw", "yield",
  "move", "try", "integer_literal", "\"", "\"", "char_literal", "escape_sequence", "true", "false",
  "//", "line_comment_token1", "line_comment_token2", "line_comment_token3", "!", "/", "/*", "*/",
  "shebang", "self", "super", "crate", "metavariable", "string_content",
  "_raw_string_literal_start", "string_content", "_raw_string_literal_end", "float_literal",
  "outer_doc_comment_marker", "inner_doc_comment_marker", "_block_comment_content", "doc_comment",
  "_error_sentinel", "source_file", "_statement", "empty_statement", "expression_statement",
  "macro_definition", "macro_rule", "_token_pattern", "token_tree_pattern",
  "token_binding_pattern", "token_repetition_pattern", "fragment_specifier", "token_tree",
  "token_repetition", "attribute_item", "inner_attribute_item", "attribute", "mod_item",
  "foreign_mod_item", "declaration_list", "struct_item", "union_item", "enum_item",
  "enum_variant_list", "enum_variant", "field_declaration_list", "field_declaration",
  "ordered_field_declaration_list", "extern_crate_declaration", "const_item", "static_item",
  "type_item", "function_item", "function_signature_item", "function_modifiers", "where_clause",
  "where_predicate", "impl_item", "trait_item", "associated_type", "trait_bounds",
  "higher_ranked_trait_bound", "removed_trait_bound", "type_parameters", "const_parameter",
  "type_parameter", "lifetime_parameter", "let_declaration", "use_declaration", "_use_clause",
  "scoped_use_list", "use_list", "use_as_clause", "use_wildcard", "parameters", "self_parameter",
  "variadic_parameter", "parameter", "extern_modifier", "visibility_modifier", "_type",
  "bracketed_type", "qualified_type", "lifetime", "array_type", "for_lifetimes", "function_type",
  "tuple_type", "unit_type", "generic_function", "generic_type", "generic_type_with_turbofish",
  "bounded_type", "use_bounds", "type_arguments", "type_binding", "reference_type", "pointer_type",
  "never_type", "abstract_type", "dynamic_type", "_expression_except_range", "_expression",
  "macro_invocation", "token_tree", "_delim_tokens", "_non_delim_token", "scoped_identifier",
  "scoped_type_identifier", "scoped_type_identifier", "range_expression", "unary_expression",
  "try_expression", "reference_expression", "binary_expression", "assignment_expression",
  "compound_assignment_expr", "type_cast_expression", "return_expression", "yield_expression",
  "call_expression", "arguments", "array_expression", "parenthesized_expression",
  "tuple_expression", "unit_expression", "struct_expression", "field_initializer_list",
  "shorthand_field_initializer", "field_initializer", "base_field_initializer", "if_expression",
  "let_condition", "_let_chain", "_condition", "else_clause", "match_expression", "match_block",
  "match_arm", "match_arm", "match_pattern", "while_expression", "loop_expression",
  "for_expression", "const_block", "closure_expression", "closure_parameters", "label",
  "break_expression", "continue_expression", "index_expression", "await_expression",
  "field_expression", "unsafe_block", "async_block", "gen_block", "try_block", "block", "_pattern",
  "generic_pattern", "tuple_pattern", "slice_pattern", "tuple_struct_pattern", "struct_pattern",
  "field_pattern", "remaining_field_pattern", "mut_pattern", "range_pattern", "ref_pattern",
  "captured_pattern", "reference_pattern", "or_pattern", "_literal", "_literal_pattern",
  "negative_literal", "string_literal", "raw_string_literal", "boolean_literal", "line_comment",
  "_line_doc_comment_marker", "inner_doc_comment_marker", "outer_doc_comment_marker",
  "block_comment", "_block_doc_comment_marker", "source_file_repeat1", "macro_definition_repeat1",
  "token_tree_pattern_repeat1", "token_tree_repeat1", "_non_special_token_repeat1",
  "declaration_list_repeat1", "enum_variant_list_repeat1", "enum_variant_list_repeat2",
  "field_declaration_list_repeat1", "ordered_field_declaration_list_repeat1",
  "function_modifiers_repeat1", "where_clause_repeat1", "trait_bounds_repeat1",
  "type_parameters_repeat1", "use_list_repeat1", "parameters_repeat1", "for_lifetimes_repeat1",
  "tuple_type_repeat1", "use_bounds_repeat1", "type_arguments_repeat1", "delim_token_tree_repeat1",
  "arguments_repeat1", "tuple_expression_repeat1", "field_initializer_list_repeat1",
  "match_block_repeat1", "match_arm_repeat1", "closure_parameters_repeat1",
  "tuple_pattern_repeat1", "slice_pattern_repeat1", "struct_pattern_repeat1",
  "string_literal_repeat1", "field_identifier", "let_chain", "shorthand_field_identifier",
  "type_identifier"]

end Kinds

end Arboretum
