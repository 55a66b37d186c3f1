import TablePipeline.Text.CharacterName.Run

/-!
Names of the characters from the code 0x10000 on: old scripts, music, letters of mathematics, games
and pictures.
-/
namespace TablePipeline.Text

/-- Letters and signs of old scripts. -/
def oldScriptNames : List NameRun := [
  ⟨0x10000, "LINEAR B SYLLABLE ", "B008 A;B038 E;B028 I;B061 O"⟩,
  ⟨0x10004, "LINEAR B SYLLABLE ", "B010 U;B001 DA;B045 DE;B007 DI;B014 DO;B051 DU;B057 JA;B046 JE"⟩,
  ⟨0x1000D, "LINEAR B SYLLABLE ", "B036 JO;B065 JU;B077 KA;B044 KE;B067 KI"⟩,
  ⟨0x10012, "LINEAR B SYLLABLE ", "B070 KO;B081 KU;B080 MA;B013 ME;B073 MI;B015 MO;B023 MU"⟩,
  ⟨0x10019, "LINEAR B SYLLABLE ", "B006 NA;B024 NE;B030 NI;B052 NO;B055 NU;B003 PA;B072 PE"⟩,
  ⟨0x10020, "LINEAR B SYLLABLE ", "B039 PI;B011 PO;B050 PU;B016 QA;B078 QE;B021 QI;B032 QO"⟩,
  ⟨0x10028, "LINEAR B SYLLABLE ", "B060 RA;B027 RE;B053 RI;B002 RO;B026 RU"⟩,
  ⟨0x1002D, "LINEAR B SYLLABLE ", "B031 SA;B009 SE;B041 SI;B012 SO;B058 SU;B059 TA;B004 TE"⟩,
  ⟨0x10034, "LINEAR B SYLLABLE ", "B037 TI;B005 TO;B069 TU;B054 WA;B075 WE;B040 WI;B042 WO"⟩,
  ⟨0x1003C, "LINEAR B SYLLABLE ", "B017 ZA;B074 ZE"⟩,
  ⟨0x1003F, "", "LINEAR B SYLLABLE B020 ZO"⟩,
  ⟨0x10040, "LINEAR B SYLLABLE ", "B025 A2;B043 A3;B085 AU;B071 DWE;B090 DWO;B048 NWA;B029 PU2"⟩,
  ⟨0x10047, "LINEAR B SYLLABLE ", "B062 PTE;B076 RA2;B033 RA3;B068 RO2;B066 TA2;B087 TWE;B091 TWO"⟩,
  ⟨0x10050, "", "LINEAR B SYMBOL B018"⟩,
  ⟨0x10051, "LINEAR B SYMBOL ", "B019;B022;B034;B047;B049;B056;B063;B064;B079;B082;B083;B086;B089"⟩,
  ⟨0x10330, "GOTHIC LETTER ", "AHSA;BAIRKAN;GIBA;DAGS;AIHVUS;QAIRTHRA;IUJA"⟩,
  ⟨0x10337, "GOTHIC LETTER ", "HAGL;THIUTH;EIS;KUSMA;LAGUS;MANNA;NAUTHS;JER;URUS;PAIRTHRA;NINETY"⟩,
  ⟨0x10342, "GOTHIC LETTER ", "RAIDA;SAUIL;TEIWS;WINJA;FAIHU;IGGWS;HWAIR;OTHAL;NINE HUNDRED"⟩,
  ⟨0x10400, "DESERET CAPITAL LETTER LONG ", "I;E;A;AH"⟩,
  ⟨0x10404, "DESERET CAPITAL LETTER ", "LONG O;LONG OO;SHORT I;SHORT E;SHORT A;SHORT AH;SHORT O"⟩,
  ⟨0x1040B, "DESERET CAPITAL LETTER ", "SHORT OO;AY;OW;WU;YEE;H;PEE;BEE;TEE;DEE;CHEE;JEE;KAY"⟩,
  ⟨0x10418, "DESERET CAPITAL LETTER ", "GAY;EF;VEE;ETH;THEE;ES;ZEE;ESH;ZHEE;ER;EL;EM;EN;ENG;OI;EW"⟩,
  ⟨0x10428, "DESERET SMALL LETTER LONG ", "I;E;A;AH"⟩,
  ⟨0x1042C, "DESERET SMALL LETTER ", "LONG O;LONG OO;SHORT I;SHORT E;SHORT A;SHORT AH;SHORT O"⟩,
  ⟨0x10433, "DESERET SMALL LETTER ", "SHORT OO;AY;OW;WU;YEE;H;PEE;BEE;TEE;DEE;CHEE;JEE;KAY"⟩,
  ⟨0x10440, "DESERET SMALL LETTER ", "GAY;EF;VEE;ETH;THEE;ES;ZEE;ESH;ZHEE;ER;EL;EM;EN;ENG;OI;EW"⟩]

/-- Signs of music. -/
def musicNames : List NameRun := [
  ⟨0x1D100, "MUSICAL SYMBOL ", "SINGLE BARLINE;DOUBLE BARLINE;FINAL BARLINE;REVERSE FINAL BARLINE"⟩,
  ⟨0x1D104, "MUSICAL SYMBOL ", "DASHED BARLINE;SHORT BARLINE;LEFT REPEAT SIGN"⟩,
  ⟨0x1D107, "MUSICAL SYMBOL ", "RIGHT REPEAT SIGN;REPEAT DOTS;DAL SEGNO;DA CAPO;SEGNO;CODA"⟩,
  ⟨0x1D10D, "MUSICAL SYMBOL ", "REPEATED FIGURE-1;REPEATED FIGURE-2;REPEATED FIGURE-3;FERMATA"⟩,
  ⟨0x1D111, "MUSICAL SYMBOL ", "FERMATA BELOW;BREATH MARK;CAESURA;BRACE;BRACKET;ONE-LINE STAFF"⟩,
  ⟨0x1D117, "MUSICAL SYMBOL ", "TWO-LINE STAFF;THREE-LINE STAFF;FOUR-LINE STAFF;FIVE-LINE STAFF"⟩,
  ⟨0x1D11B, "MUSICAL SYMBOL ", "SIX-LINE STAFF;SIX-STRING FRETBOARD;FOUR-STRING FRETBOARD"⟩,
  ⟨0x1D11E, "MUSICAL SYMBOL ", "G CLEF;G CLEF OTTAVA ALTA;G CLEF OTTAVA BASSA;C CLEF;F CLEF"⟩,
  ⟨0x1D123, "MUSICAL SYMBOL ", "F CLEF OTTAVA ALTA;F CLEF OTTAVA BASSA;DRUM CLEF-1;DRUM CLEF-2"⟩,
  ⟨0x1D129, "MUSICAL SYMBOL ", "MULTIPLE MEASURE REST;DOUBLE SHARP"⟩,
  ⟨0x1D12B, "MUSICAL SYMBOL ", "DOUBLE FLAT;FLAT UP;FLAT DOWN;NATURAL UP;NATURAL DOWN"⟩,
  ⟨0x1D130, "MUSICAL SYMBOL ", "SHARP UP;SHARP DOWN;QUARTER TONE SHARP;QUARTER TONE FLAT"⟩,
  ⟨0x1D134, "MUSICAL SYMBOL ", "COMMON TIME;CUT TIME;OTTAVA ALTA;OTTAVA BASSA;QUINDICESIMA ALTA"⟩,
  ⟨0x1D139, "MUSICAL SYMBOL ", "QUINDICESIMA BASSA;MULTI REST;WHOLE REST;HALF REST;QUARTER REST"⟩,
  ⟨0x1D13E, "MUSICAL SYMBOL ", "EIGHTH REST;SIXTEENTH REST;THIRTY-SECOND REST;SIXTY-FOURTH REST"⟩,
  ⟨0x1D142, "MUSICAL SYMBOL ", "ONE HUNDRED TWENTY-EIGHTH REST;X NOTEHEAD;PLUS NOTEHEAD"⟩,
  ⟨0x1D145, "MUSICAL SYMBOL ", "CIRCLE X NOTEHEAD;SQUARE NOTEHEAD WHITE;SQUARE NOTEHEAD BLACK"⟩,
  ⟨0x1D148, "MUSICAL SYMBOL TRIANGLE NOTEHEAD UP ", "WHITE;BLACK"⟩,
  ⟨0x1D14A, "MUSICAL SYMBOL TRIANGLE NOTEHEAD ", "LEFT WHITE;LEFT BLACK;RIGHT WHITE;RIGHT BLACK"⟩,
  ⟨0x1D14E, "MUSICAL SYMBOL TRIANGLE NOTEHEAD ", "DOWN WHITE;DOWN BLACK;UP RIGHT WHITE"⟩,
  ⟨0x1D151, "MUSICAL SYMBOL ", "TRIANGLE NOTEHEAD UP RIGHT BLACK;MOON NOTEHEAD WHITE"⟩,
  ⟨0x1D153, "MUSICAL SYMBOL ", "MOON NOTEHEAD BLACK;TRIANGLE-ROUND NOTEHEAD DOWN WHITE"⟩,
  ⟨0x1D155, "MUSICAL SYMBOL ", "TRIANGLE-ROUND NOTEHEAD DOWN BLACK;PARENTHESIS NOTEHEAD"⟩,
  ⟨0x1D157, "MUSICAL SYMBOL ", "VOID NOTEHEAD;NOTEHEAD BLACK;NULL NOTEHEAD;CLUSTER NOTEHEAD WHITE"⟩,
  ⟨0x1D15B, "MUSICAL SYMBOL ", "CLUSTER NOTEHEAD BLACK;BREVE;WHOLE NOTE;HALF NOTE"⟩,
  ⟨0x1D15F, "MUSICAL SYMBOL ", "QUARTER NOTE;EIGHTH NOTE;SIXTEENTH NOTE;THIRTY-SECOND NOTE"⟩,
  ⟨0x1D163, "MUSICAL SYMBOL ", "SIXTY-FOURTH NOTE;ONE HUNDRED TWENTY-EIGHTH NOTE"⟩,
  ⟨0x1D165, "MUSICAL SYMBOL COMBINING ", "STEM;SPRECHGESANG STEM;TREMOLO-1;TREMOLO-2;TREMOLO-3"⟩,
  ⟨0x1D16A, "MUSICAL SYMBOL FINGERED ", "TREMOLO-1;TREMOLO-2;TREMOLO-3"⟩,
  ⟨0x1D16D, "MUSICAL SYMBOL COMBINING ", "AUGMENTATION DOT;FLAG-1;FLAG-2"⟩,
  ⟨0x1D170, "MUSICAL SYMBOL ", "COMBINING FLAG-3;COMBINING FLAG-4;COMBINING FLAG-5;BEGIN BEAM"⟩,
  ⟨0x1D174, "MUSICAL SYMBOL ", "END BEAM;BEGIN TIE;END TIE;BEGIN SLUR;END SLUR;BEGIN PHRASE"⟩,
  ⟨0x1D17A, "MUSICAL SYMBOL ", "END PHRASE;COMBINING ACCENT;COMBINING STACCATO;COMBINING TENUTO"⟩,
  ⟨0x1D17E, "MUSICAL SYMBOL COMBINING ", "STACCATISSIMO;MARCATO;MARCATO-STACCATO;ACCENT-STACCATO"⟩,
  ⟨0x1D182, "MUSICAL SYMBOL ", "COMBINING LOURE;ARPEGGIATO UP;ARPEGGIATO DOWN"⟩,
  ⟨0x1D185, "MUSICAL SYMBOL COMBINING ", "DOIT;RIP;FLIP;SMEAR;BEND"⟩,
  ⟨0x1D18A, "MUSICAL SYMBOL ", "COMBINING DOUBLE TONGUE;COMBINING TRIPLE TONGUE;RINFORZANDO"⟩,
  ⟨0x1D18D, "MUSICAL SYMBOL ", "SUBITO;Z;PIANO;MEZZO;FORTE;CRESCENDO;DECRESCENDO;GRACE NOTE SLASH"⟩,
  ⟨0x1D195, "MUSICAL SYMBOL ", "GRACE NOTE NO SLASH;TR;TURN;INVERTED TURN;TURN SLASH;TURN UP"⟩,
  ⟨0x1D19B, "MUSICAL SYMBOL ORNAMENT ", "STROKE-1;STROKE-2;STROKE-3;STROKE-4;STROKE-5"⟩,
  ⟨0x1D1A0, "MUSICAL SYMBOL ORNAMENT ", "STROKE-6;STROKE-7;STROKE-8;STROKE-9;STROKE-10;STROKE-11"⟩,
  ⟨0x1D1A6, "MUSICAL SYMBOL ", "HAUPTSTIMME;NEBENSTIMME;END OF STIMME;DEGREE SLASH"⟩,
  ⟨0x1D1AA, "MUSICAL SYMBOL COMBINING ", "DOWN BOW;UP BOW;HARMONIC"⟩,
  ⟨0x1D1AD, "MUSICAL SYMBOL ", "COMBINING SNAP PIZZICATO;PEDAL MARK;PEDAL UP MARK"⟩,
  ⟨0x1D1B0, "MUSICAL SYMBOL ", "HALF PEDAL MARK;GLISSANDO UP;GLISSANDO DOWN;WITH FINGERNAILS"⟩,
  ⟨0x1D1B4, "MUSICAL SYMBOL ", "DAMP;DAMP ALL;MAXIMA;LONGA;BREVIS;SEMIBREVIS WHITE"⟩,
  ⟨0x1D1BA, "MUSICAL SYMBOL ", "SEMIBREVIS BLACK;MINIMA;MINIMA BLACK;SEMIMINIMA WHITE"⟩,
  ⟨0x1D1BE, "MUSICAL SYMBOL ", "SEMIMINIMA BLACK;FUSA WHITE;FUSA BLACK;LONGA PERFECTA REST"⟩,
  ⟨0x1D1C2, "MUSICAL SYMBOL ", "LONGA IMPERFECTA REST;BREVIS REST;SEMIBREVIS REST;MINIMA REST"⟩,
  ⟨0x1D1C6, "MUSICAL SYMBOL ", "SEMIMINIMA REST;TEMPUS PERFECTUM CUM PROLATIONE PERFECTA"⟩,
  ⟨0x1D1C8, "MUSICAL SYMBOL TEMPUS PERFECTUM CUM PROLATIONE ", "IMPERFECTA;PERFECTA DIMINUTION-1"⟩,
  ⟨0x1D1CA, "MUSICAL SYMBOL TEMPUS IMPERFECTUM CUM PROLATIONE ", "PERFECTA;IMPERFECTA"⟩,
  ⟨0x1D1CC, "", "MUSICAL SYMBOL TEMPUS IMPERFECTUM CUM PROLATIONE IMPERFECTA DIMINUTION-1"⟩,
  ⟨0x1D1CD, "", "MUSICAL SYMBOL TEMPUS IMPERFECTUM CUM PROLATIONE IMPERFECTA DIMINUTION-2"⟩,
  ⟨0x1D1CE, "", "MUSICAL SYMBOL TEMPUS IMPERFECTUM CUM PROLATIONE IMPERFECTA DIMINUTION-3"⟩,
  ⟨0x1D1CF, "MUSICAL SYMBOL ", "CROIX;GREGORIAN C CLEF;GREGORIAN F CLEF;SQUARE B;VIRGA;PODATUS"⟩,
  ⟨0x1D1D5, "MUSICAL SYMBOL ", "CLIVIS;SCANDICUS;CLIMACUS;TORCULUS;PORRECTUS;PORRECTUS FLEXUS"⟩,
  ⟨0x1D1DB, "MUSICAL SYMBOL ", "SCANDICUS FLEXUS;TORCULUS RESUPINUS;PES SUBPUNCTIS"⟩,
  ⟨0x1D1DE, "MUSICAL SYMBOL KIEVAN ", "C CLEF;END OF PIECE;FINAL NOTE;RECITATIVE MARK"⟩,
  ⟨0x1D1E2, "MUSICAL SYMBOL KIEVAN ", "WHOLE NOTE;HALF NOTE;QUARTER NOTE STEM DOWN"⟩,
  ⟨0x1D1E5, "MUSICAL SYMBOL KIEVAN ", "QUARTER NOTE STEM UP;EIGHTH NOTE STEM DOWN"⟩,
  ⟨0x1D1E7, "MUSICAL SYMBOL ", "KIEVAN EIGHTH NOTE STEM UP;KIEVAN FLAT SIGN;SORI;KORON"⟩]

/-- Letters and digits of mathematics. -/
def mathLetterNames : List NameRun := [
  ⟨0x1D400, "MATHEMATICAL BOLD CAPITAL ", "A;B;C;D;E;F;G;H;I;J;K;L;M;N;O;P;Q;R;S;T;U;V;W;X;Y;Z"⟩,
  ⟨0x1D41A, "MATHEMATICAL BOLD SMALL ", "A;B;C;D;E;F;G;H;I;J;K;L;M;N;O;P;Q;R;S;T;U;V;W;X;Y;Z"⟩,
  ⟨0x1D434, "MATHEMATICAL ITALIC CAPITAL ", "A;B;C;D;E;F;G;H;I;J;K;L;M;N;O;P;Q;R;S;T;U;V;W;X;Y;Z"⟩,
  ⟨0x1D44E, "MATHEMATICAL ITALIC SMALL ", "A;B;C;D;E;F;G"⟩,
  ⟨0x1D456, "MATHEMATICAL ITALIC SMALL ", "I;J;K;L;M;N;O;P;Q;R;S;T;U;V;W;X;Y"⟩,
  ⟨0x1D467, "MATHEMATICAL ", "ITALIC SMALL Z;BOLD ITALIC CAPITAL A;BOLD ITALIC CAPITAL B"⟩,
  ⟨0x1D46A, "MATHEMATICAL BOLD ITALIC CAPITAL ", "C;D;E;F;G;H;I;J;K;L;M;N;O;P;Q;R;S;T;U;V;W;X;Y;Z"⟩,
  ⟨0x1D482, "MATHEMATICAL BOLD ITALIC SMALL ", "A;B;C;D;E;F;G;H;I;J;K;L;M;N;O;P;Q;R;S;T;U;V;W;X"⟩,
  ⟨0x1D49A, "MATHEMATICAL ", "BOLD ITALIC SMALL Y;BOLD ITALIC SMALL Z;SCRIPT CAPITAL A"⟩,
  ⟨0x1D49E, "MATHEMATICAL SCRIPT CAPITAL ", "C;D"⟩,
  ⟨0x1D4A2, "", "MATHEMATICAL SCRIPT CAPITAL G"⟩,
  ⟨0x1D4A5, "MATHEMATICAL SCRIPT CAPITAL ", "J;K"⟩,
  ⟨0x1D4A9, "MATHEMATICAL SCRIPT CAPITAL ", "N;O;P;Q"⟩,
  ⟨0x1D4AE, "MATHEMATICAL SCRIPT CAPITAL ", "S;T;U;V;W;X"⟩,
  ⟨0x1D4B4, "MATHEMATICAL SCRIPT ", "CAPITAL Y;CAPITAL Z;SMALL A;SMALL B;SMALL C;SMALL D"⟩,
  ⟨0x1D4BB, "", "MATHEMATICAL SCRIPT SMALL F"⟩,
  ⟨0x1D4BD, "MATHEMATICAL SCRIPT SMALL ", "H;I;J;K;L;M;N"⟩,
  ⟨0x1D4C5, "MATHEMATICAL SCRIPT SMALL ", "P;Q;R;S;T;U;V;W;X;Y"⟩,
  ⟨0x1D4CF, "MATHEMATICAL ", "SCRIPT SMALL Z;BOLD SCRIPT CAPITAL A;BOLD SCRIPT CAPITAL B"⟩,
  ⟨0x1D4D2, "MATHEMATICAL BOLD SCRIPT CAPITAL ", "C;D;E;F;G;H;I;J;K;L;M;N;O;P;Q;R;S;T;U;V;W;X;Y;Z"⟩,
  ⟨0x1D4EA, "MATHEMATICAL BOLD SCRIPT SMALL ", "A;B;C;D;E;F;G;H;I;J;K;L;M;N;O;P;Q;R;S;T;U;V;W;X;Y"⟩,
  ⟨0x1D503, "MATHEMATICAL ", "BOLD SCRIPT SMALL Z;FRAKTUR CAPITAL A;FRAKTUR CAPITAL B"⟩,
  ⟨0x1D507, "MATHEMATICAL FRAKTUR CAPITAL ", "D;E;F;G"⟩,
  ⟨0x1D50D, "MATHEMATICAL FRAKTUR CAPITAL ", "J;K;L;M;N;O;P;Q"⟩,
  ⟨0x1D516, "MATHEMATICAL FRAKTUR CAPITAL ", "S;T;U;V;W;X;Y"⟩,
  ⟨0x1D51E, "MATHEMATICAL FRAKTUR SMALL ", "A;B;C;D;E;F;G;H;I;J;K;L;M;N;O;P;Q;R;S;T;U;V;W;X;Y"⟩,
  ⟨0x1D537, "MATHEMATICAL ", "FRAKTUR SMALL Z;DOUBLE-STRUCK CAPITAL A;DOUBLE-STRUCK CAPITAL B"⟩,
  ⟨0x1D53B, "MATHEMATICAL DOUBLE-STRUCK CAPITAL ", "D;E;F;G"⟩,
  ⟨0x1D540, "MATHEMATICAL DOUBLE-STRUCK CAPITAL ", "I;J;K;L;M"⟩,
  ⟨0x1D546, "", "MATHEMATICAL DOUBLE-STRUCK CAPITAL O"⟩,
  ⟨0x1D54A, "MATHEMATICAL DOUBLE-STRUCK CAPITAL ", "S;T;U;V;W;X;Y"⟩,
  ⟨0x1D552, "MATHEMATICAL DOUBLE-STRUCK SMALL ", "A;B"⟩,
  ⟨0x1D554, "MATHEMATICAL DOUBLE-STRUCK SMALL ", "C;D;E;F;G;H;I;J;K;L;M;N;O;P;Q;R;S;T;U;V;W;X;Y;Z"⟩,
  ⟨0x1D56C, "MATHEMATICAL BOLD FRAKTUR CAPITAL ", "A;B;C;D;E;F;G;H;I;J;K;L;M;N;O;P;Q;R;S;T;U;V"⟩,
  ⟨0x1D582, "MATHEMATICAL BOLD FRAKTUR ", "CAPITAL W;CAPITAL X;CAPITAL Y;CAPITAL Z;SMALL A"⟩,
  ⟨0x1D587, "MATHEMATICAL BOLD FRAKTUR SMALL ", "B;C;D;E;F;G;H;I;J;K;L;M;N;O;P;Q;R;S;T;U;V;W;X;Y"⟩,
  ⟨0x1D59F, "MATHEMATICAL ", "BOLD FRAKTUR SMALL Z;SANS-SERIF CAPITAL A;SANS-SERIF CAPITAL B"⟩,
  ⟨0x1D5A2, "MATHEMATICAL SANS-SERIF CAPITAL ", "C;D;E;F;G;H;I;J;K;L;M;N;O;P;Q;R;S;T;U;V;W;X;Y;Z"⟩,
  ⟨0x1D5BA, "MATHEMATICAL SANS-SERIF SMALL ", "A;B;C;D;E;F;G;H;I;J;K;L;M;N;O;P;Q;R;S;T;U;V;W"⟩,
  ⟨0x1D5D1, "MATHEMATICAL SANS-SERIF ", "SMALL X;SMALL Y;SMALL Z;BOLD CAPITAL A;BOLD CAPITAL B"⟩,
  ⟨0x1D5D6, "MATHEMATICAL SANS-SERIF BOLD CAPITAL ", "C;D;E;F;G;H;I;J;K;L;M;N;O;P;Q;R;S;T;U;V;W;X"⟩,
  ⟨0x1D5EC, "MATHEMATICAL SANS-SERIF BOLD ", "CAPITAL Y;CAPITAL Z;SMALL A;SMALL B;SMALL C"⟩,
  ⟨0x1D5F1, "MATHEMATICAL SANS-SERIF BOLD SMALL ", "D;E;F;G;H;I;J;K;L;M;N;O;P;Q;R;S;T;U;V;W;X;Y;Z"⟩,
  ⟨0x1D608, "MATHEMATICAL SANS-SERIF ITALIC CAPITAL ", "A;B;C;D"⟩,
  ⟨0x1D60C, "MATHEMATICAL SANS-SERIF ITALIC CAPITAL ", "E;F;G;H;I;J;K;L;M;N;O;P;Q;R;S;T;U;V;W;X;Y"⟩,
  ⟨0x1D621, "MATHEMATICAL SANS-SERIF ITALIC ", "CAPITAL Z;SMALL A;SMALL B;SMALL C;SMALL D"⟩,
  ⟨0x1D626, "MATHEMATICAL SANS-SERIF ITALIC SMALL ", "E;F;G;H;I;J;K;L;M;N;O;P;Q;R;S;T;U;V;W;X;Y;Z"⟩,
  ⟨0x1D63C, "MATHEMATICAL SANS-SERIF BOLD ITALIC CAPITAL ", "A;B;C;D;E;F;G;H"⟩,
  ⟨0x1D644, "MATHEMATICAL SANS-SERIF BOLD ITALIC CAPITAL ", "I;J;K;L;M;N;O;P;Q;R;S;T;U;V;W;X;Y;Z"⟩,
  ⟨0x1D656, "MATHEMATICAL SANS-SERIF BOLD ITALIC SMALL ", "A;B;C;D;E;F"⟩,
  ⟨0x1D65C, "MATHEMATICAL SANS-SERIF BOLD ITALIC SMALL ", "G;H;I;J;K;L;M;N;O;P;Q;R;S;T;U;V;W;X;Y"⟩,
  ⟨0x1D66F, "MATHEMATICAL ", "SANS-SERIF BOLD ITALIC SMALL Z;MONOSPACE CAPITAL A"⟩,
  ⟨0x1D671, "MATHEMATICAL MONOSPACE CAPITAL ", "B;C;D;E;F;G;H;I;J;K;L;M;N;O;P;Q;R;S;T;U;V;W;X;Y;Z"⟩,
  ⟨0x1D68A, "MATHEMATICAL MONOSPACE SMALL ", "A;B;C;D;E;F;G;H;I;J;K;L;M;N;O;P;Q;R;S;T;U;V;W;X;Y"⟩,
  ⟨0x1D6A3, "MATHEMATICAL ", "MONOSPACE SMALL Z;ITALIC SMALL DOTLESS I;ITALIC SMALL DOTLESS J"⟩,
  ⟨0x1D6A8, "MATHEMATICAL BOLD CAPITAL ", "ALPHA;BETA;GAMMA;DELTA;EPSILON"⟩,
  ⟨0x1D6AD, "MATHEMATICAL BOLD CAPITAL ", "ZETA;ETA;THETA;IOTA;KAPPA;LAMDA;MU;NU;XI;OMICRON"⟩,
  ⟨0x1D6B7, "MATHEMATICAL BOLD CAPITAL ", "PI;RHO;THETA SYMBOL;SIGMA;TAU;UPSILON;PHI;CHI;PSI"⟩,
  ⟨0x1D6C0, "MATHEMATICAL BOLD ", "CAPITAL OMEGA;NABLA;SMALL ALPHA;SMALL BETA;SMALL GAMMA"⟩,
  ⟨0x1D6C5, "MATHEMATICAL BOLD SMALL ", "DELTA;EPSILON;ZETA;ETA;THETA;IOTA;KAPPA;LAMDA;MU;NU"⟩,
  ⟨0x1D6CF, "MATHEMATICAL BOLD SMALL ", "XI;OMICRON;PI;RHO;FINAL SIGMA;SIGMA;TAU;UPSILON;PHI;CHI"⟩,
  ⟨0x1D6D9, "MATHEMATICAL BOLD ", "SMALL PSI;SMALL OMEGA;PARTIAL DIFFERENTIAL;EPSILON SYMBOL"⟩,
  ⟨0x1D6DD, "MATHEMATICAL BOLD ", "THETA SYMBOL;KAPPA SYMBOL;PHI SYMBOL;RHO SYMBOL;PI SYMBOL"⟩,
  ⟨0x1D6E2, "MATHEMATICAL ITALIC CAPITAL ", "ALPHA;BETA;GAMMA;DELTA;EPSILON"⟩,
  ⟨0x1D6E7, "MATHEMATICAL ITALIC CAPITAL ", "ZETA;ETA;THETA;IOTA;KAPPA;LAMDA;MU;NU;XI;OMICRON"⟩,
  ⟨0x1D6F1, "MATHEMATICAL ITALIC CAPITAL ", "PI;RHO;THETA SYMBOL;SIGMA;TAU;UPSILON;PHI;CHI;PSI"⟩,
  ⟨0x1D6FA, "MATHEMATICAL ITALIC ", "CAPITAL OMEGA;NABLA;SMALL ALPHA;SMALL BETA;SMALL GAMMA"⟩,
  ⟨0x1D6FF, "MATHEMATICAL ITALIC SMALL ", "DELTA;EPSILON;ZETA;ETA;THETA;IOTA;KAPPA;LAMDA;MU;NU;XI"⟩,
  ⟨0x1D70A, "MATHEMATICAL ITALIC SMALL ", "OMICRON;PI;RHO;FINAL SIGMA;SIGMA;TAU;UPSILON;PHI;CHI"⟩,
  ⟨0x1D713, "MATHEMATICAL ITALIC ", "SMALL PSI;SMALL OMEGA;PARTIAL DIFFERENTIAL;EPSILON SYMBOL"⟩,
  ⟨0x1D717, "MATHEMATICAL ITALIC ", "THETA SYMBOL;KAPPA SYMBOL;PHI SYMBOL;RHO SYMBOL;PI SYMBOL"⟩,
  ⟨0x1D71C, "MATHEMATICAL BOLD ITALIC CAPITAL ", "ALPHA;BETA;GAMMA;DELTA;EPSILON"⟩,
  ⟨0x1D721, "MATHEMATICAL BOLD ITALIC CAPITAL ", "ZETA;ETA;THETA;IOTA;KAPPA;LAMDA;MU;NU;XI"⟩,
  ⟨0x1D72A, "MATHEMATICAL BOLD ITALIC CAPITAL ", "OMICRON;PI;RHO;THETA SYMBOL;SIGMA;TAU;UPSILON"⟩,
  ⟨0x1D731, "MATHEMATICAL BOLD ITALIC ", "CAPITAL PHI;CAPITAL CHI;CAPITAL PSI;CAPITAL OMEGA;NABLA"⟩,
  ⟨0x1D736, "MATHEMATICAL BOLD ITALIC SMALL ", "ALPHA;BETA;GAMMA;DELTA;EPSILON"⟩,
  ⟨0x1D73B, "MATHEMATICAL BOLD ITALIC SMALL ", "ZETA;ETA;THETA;IOTA;KAPPA;LAMDA;MU;NU;XI;OMICRON"⟩,
  ⟨0x1D745, "MATHEMATICAL BOLD ITALIC SMALL ", "PI;RHO;FINAL SIGMA;SIGMA;TAU;UPSILON;PHI;CHI;PSI"⟩,
  ⟨0x1D74E, "MATHEMATICAL BOLD ITALIC ", "SMALL OMEGA;PARTIAL DIFFERENTIAL;EPSILON SYMBOL"⟩,
  ⟨0x1D751, "MATHEMATICAL BOLD ITALIC ", "THETA SYMBOL;KAPPA SYMBOL;PHI SYMBOL;RHO SYMBOL"⟩,
  ⟨0x1D755, "MATHEMATICAL ", "BOLD ITALIC PI SYMBOL;SANS-SERIF BOLD CAPITAL ALPHA"⟩,
  ⟨0x1D757, "MATHEMATICAL SANS-SERIF BOLD CAPITAL ", "BETA;GAMMA;DELTA;EPSILON;ZETA;ETA;THETA"⟩,
  ⟨0x1D75E, "MATHEMATICAL SANS-SERIF BOLD CAPITAL ", "IOTA;KAPPA;LAMDA;MU;NU;XI;OMICRON;PI;RHO"⟩,
  ⟨0x1D767, "MATHEMATICAL SANS-SERIF BOLD CAPITAL ", "THETA SYMBOL;SIGMA;TAU;UPSILON;PHI;CHI;PSI"⟩,
  ⟨0x1D76E, "MATHEMATICAL SANS-SERIF BOLD ", "CAPITAL OMEGA;NABLA;SMALL ALPHA;SMALL BETA"⟩,
  ⟨0x1D772, "MATHEMATICAL SANS-SERIF BOLD SMALL ", "GAMMA;DELTA;EPSILON;ZETA;ETA;THETA;IOTA;KAPPA"⟩,
  ⟨0x1D77A, "MATHEMATICAL SANS-SERIF BOLD SMALL ", "LAMDA;MU;NU;XI;OMICRON;PI;RHO;FINAL SIGMA"⟩,
  ⟨0x1D782, "MATHEMATICAL SANS-SERIF BOLD SMALL ", "SIGMA;TAU;UPSILON;PHI;CHI;PSI;OMEGA"⟩,
  ⟨0x1D789, "MATHEMATICAL SANS-SERIF BOLD ", "PARTIAL DIFFERENTIAL;EPSILON SYMBOL;THETA SYMBOL"⟩,
  ⟨0x1D78C, "MATHEMATICAL SANS-SERIF BOLD ", "KAPPA SYMBOL;PHI SYMBOL;RHO SYMBOL;PI SYMBOL"⟩,
  ⟨0x1D790, "MATHEMATICAL SANS-SERIF BOLD ITALIC CAPITAL ", "ALPHA;BETA;GAMMA;DELTA;EPSILON"⟩,
  ⟨0x1D795, "MATHEMATICAL SANS-SERIF BOLD ITALIC CAPITAL ", "ZETA;ETA;THETA;IOTA;KAPPA;LAMDA"⟩,
  ⟨0x1D79B, "MATHEMATICAL SANS-SERIF BOLD ITALIC CAPITAL ", "MU;NU;XI;OMICRON;PI;RHO;THETA SYMBOL"⟩,
  ⟨0x1D7A2, "MATHEMATICAL SANS-SERIF BOLD ITALIC CAPITAL ", "SIGMA;TAU;UPSILON;PHI;CHI;PSI;OMEGA"⟩,
  ⟨0x1D7A9, "MATHEMATICAL SANS-SERIF BOLD ITALIC ", "NABLA;SMALL ALPHA;SMALL BETA;SMALL GAMMA"⟩,
  ⟨0x1D7AD, "MATHEMATICAL SANS-SERIF BOLD ITALIC SMALL ", "DELTA;EPSILON;ZETA;ETA;THETA;IOTA"⟩,
  ⟨0x1D7B3, "MATHEMATICAL SANS-SERIF BOLD ITALIC SMALL ", "KAPPA;LAMDA;MU;NU;XI;OMICRON;PI;RHO"⟩,
  ⟨0x1D7BB, "MATHEMATICAL SANS-SERIF BOLD ITALIC SMALL ", "FINAL SIGMA;SIGMA;TAU;UPSILON;PHI;CHI"⟩,
  ⟨0x1D7C1, "MATHEMATICAL SANS-SERIF BOLD ITALIC ", "SMALL PSI;SMALL OMEGA;PARTIAL DIFFERENTIAL"⟩,
  ⟨0x1D7C4, "MATHEMATICAL SANS-SERIF BOLD ITALIC ", "EPSILON SYMBOL;THETA SYMBOL"⟩,
  ⟨0x1D7C6, "MATHEMATICAL SANS-SERIF BOLD ITALIC ", "KAPPA SYMBOL;PHI SYMBOL;RHO SYMBOL;PI SYMBOL"⟩,
  ⟨0x1D7CA, "MATHEMATICAL BOLD ", "CAPITAL DIGAMMA;SMALL DIGAMMA"⟩,
  ⟨0x1D7CE, "MATHEMATICAL BOLD DIGIT ", "ZERO;ONE;TWO;THREE;FOUR;FIVE;SIX;SEVEN"⟩,
  ⟨0x1D7D6, "MATHEMATICAL ", "BOLD DIGIT EIGHT;BOLD DIGIT NINE;DOUBLE-STRUCK DIGIT ZERO"⟩,
  ⟨0x1D7D9, "MATHEMATICAL DOUBLE-STRUCK DIGIT ", "ONE;TWO;THREE;FOUR;FIVE;SIX;SEVEN;EIGHT;NINE"⟩,
  ⟨0x1D7E2, "MATHEMATICAL SANS-SERIF DIGIT ", "ZERO;ONE;TWO;THREE;FOUR;FIVE;SIX"⟩,
  ⟨0x1D7E9, "MATHEMATICAL SANS-SERIF ", "DIGIT SEVEN;DIGIT EIGHT;DIGIT NINE;BOLD DIGIT ZERO"⟩,
  ⟨0x1D7ED, "MATHEMATICAL SANS-SERIF BOLD DIGIT ", "ONE;TWO;THREE;FOUR;FIVE;SIX;SEVEN;EIGHT;NINE"⟩,
  ⟨0x1D7F6, "MATHEMATICAL MONOSPACE DIGIT ", "ZERO;ONE;TWO;THREE;FOUR;FIVE;SIX;SEVEN;EIGHT;NINE"⟩]

/-- Tiles and cards, and letters in boxes. -/
def gameNames : List NameRun := [
  ⟨0x1F000, "MAHJONG TILE ", "EAST WIND;SOUTH WIND;WEST WIND;NORTH WIND;RED DRAGON"⟩,
  ⟨0x1F005, "MAHJONG TILE ", "GREEN DRAGON;WHITE DRAGON;ONE OF CHARACTERS;TWO OF CHARACTERS"⟩,
  ⟨0x1F009, "MAHJONG TILE ", "THREE OF CHARACTERS;FOUR OF CHARACTERS;FIVE OF CHARACTERS"⟩,
  ⟨0x1F00C, "MAHJONG TILE ", "SIX OF CHARACTERS;SEVEN OF CHARACTERS;EIGHT OF CHARACTERS"⟩,
  ⟨0x1F00F, "MAHJONG TILE ", "NINE OF CHARACTERS;ONE OF BAMBOOS;TWO OF BAMBOOS;THREE OF BAMBOOS"⟩,
  ⟨0x1F013, "MAHJONG TILE ", "FOUR OF BAMBOOS;FIVE OF BAMBOOS;SIX OF BAMBOOS;SEVEN OF BAMBOOS"⟩,
  ⟨0x1F017, "MAHJONG TILE ", "EIGHT OF BAMBOOS;NINE OF BAMBOOS;ONE OF CIRCLES;TWO OF CIRCLES"⟩,
  ⟨0x1F01B, "MAHJONG TILE ", "THREE OF CIRCLES;FOUR OF CIRCLES;FIVE OF CIRCLES;SIX OF CIRCLES"⟩,
  ⟨0x1F01F, "MAHJONG TILE ", "SEVEN OF CIRCLES;EIGHT OF CIRCLES;NINE OF CIRCLES;PLUM"⟩,
  ⟨0x1F023, "MAHJONG TILE ", "ORCHID;BAMBOO;CHRYSANTHEMUM;SPRING;SUMMER;AUTUMN;WINTER;JOKER;BACK"⟩,
  ⟨0x1F030, "DOMINO TILE ", "HORIZONTAL BACK;HORIZONTAL-00-00;HORIZONTAL-00-01;HORIZONTAL-00-02"⟩,
  ⟨0x1F034, "DOMINO TILE ", "HORIZONTAL-00-03;HORIZONTAL-00-04;HORIZONTAL-00-05;HORIZONTAL-00-06"⟩,
  ⟨0x1F038, "DOMINO TILE ", "HORIZONTAL-01-00;HORIZONTAL-01-01;HORIZONTAL-01-02;HORIZONTAL-01-03"⟩,
  ⟨0x1F03C, "DOMINO TILE ", "HORIZONTAL-01-04;HORIZONTAL-01-05;HORIZONTAL-01-06;HORIZONTAL-02-00"⟩,
  ⟨0x1F040, "DOMINO TILE ", "HORIZONTAL-02-01;HORIZONTAL-02-02;HORIZONTAL-02-03;HORIZONTAL-02-04"⟩,
  ⟨0x1F044, "DOMINO TILE ", "HORIZONTAL-02-05;HORIZONTAL-02-06;HORIZONTAL-03-00;HORIZONTAL-03-01"⟩,
  ⟨0x1F048, "DOMINO TILE ", "HORIZONTAL-03-02;HORIZONTAL-03-03;HORIZONTAL-03-04;HORIZONTAL-03-05"⟩,
  ⟨0x1F04C, "DOMINO TILE ", "HORIZONTAL-03-06;HORIZONTAL-04-00;HORIZONTAL-04-01;HORIZONTAL-04-02"⟩,
  ⟨0x1F050, "DOMINO TILE ", "HORIZONTAL-04-03;HORIZONTAL-04-04;HORIZONTAL-04-05;HORIZONTAL-04-06"⟩,
  ⟨0x1F054, "DOMINO TILE ", "HORIZONTAL-05-00;HORIZONTAL-05-01;HORIZONTAL-05-02;HORIZONTAL-05-03"⟩,
  ⟨0x1F058, "DOMINO TILE ", "HORIZONTAL-05-04;HORIZONTAL-05-05;HORIZONTAL-05-06;HORIZONTAL-06-00"⟩,
  ⟨0x1F05C, "DOMINO TILE ", "HORIZONTAL-06-01;HORIZONTAL-06-02;HORIZONTAL-06-03;HORIZONTAL-06-04"⟩,
  ⟨0x1F060, "DOMINO TILE ", "HORIZONTAL-06-05;HORIZONTAL-06-06;VERTICAL BACK;VERTICAL-00-00"⟩,
  ⟨0x1F064, "DOMINO TILE ", "VERTICAL-00-01;VERTICAL-00-02;VERTICAL-00-03;VERTICAL-00-04"⟩,
  ⟨0x1F068, "DOMINO TILE ", "VERTICAL-00-05;VERTICAL-00-06;VERTICAL-01-00;VERTICAL-01-01"⟩,
  ⟨0x1F06C, "DOMINO TILE ", "VERTICAL-01-02;VERTICAL-01-03;VERTICAL-01-04;VERTICAL-01-05"⟩,
  ⟨0x1F070, "DOMINO TILE ", "VERTICAL-01-06;VERTICAL-02-00;VERTICAL-02-01;VERTICAL-02-02"⟩,
  ⟨0x1F074, "DOMINO TILE ", "VERTICAL-02-03;VERTICAL-02-04;VERTICAL-02-05;VERTICAL-02-06"⟩,
  ⟨0x1F078, "DOMINO TILE ", "VERTICAL-03-00;VERTICAL-03-01;VERTICAL-03-02;VERTICAL-03-03"⟩,
  ⟨0x1F07C, "DOMINO TILE ", "VERTICAL-03-04;VERTICAL-03-05;VERTICAL-03-06;VERTICAL-04-00"⟩,
  ⟨0x1F080, "DOMINO TILE ", "VERTICAL-04-01;VERTICAL-04-02;VERTICAL-04-03;VERTICAL-04-04"⟩,
  ⟨0x1F084, "DOMINO TILE ", "VERTICAL-04-05;VERTICAL-04-06;VERTICAL-05-00;VERTICAL-05-01"⟩,
  ⟨0x1F088, "DOMINO TILE ", "VERTICAL-05-02;VERTICAL-05-03;VERTICAL-05-04;VERTICAL-05-05"⟩,
  ⟨0x1F08C, "DOMINO TILE ", "VERTICAL-05-06;VERTICAL-06-00;VERTICAL-06-01;VERTICAL-06-02"⟩,
  ⟨0x1F090, "DOMINO TILE ", "VERTICAL-06-03;VERTICAL-06-04;VERTICAL-06-05;VERTICAL-06-06"⟩,
  ⟨0x1F0A0, "PLAYING CARD ", "BACK;ACE OF SPADES;TWO OF SPADES"⟩,
  ⟨0x1F0A3, "PLAYING CARD ", "THREE OF SPADES;FOUR OF SPADES;FIVE OF SPADES;SIX OF SPADES"⟩,
  ⟨0x1F0A7, "PLAYING CARD ", "SEVEN OF SPADES;EIGHT OF SPADES;NINE OF SPADES;TEN OF SPADES"⟩,
  ⟨0x1F0AB, "PLAYING CARD ", "JACK OF SPADES;KNIGHT OF SPADES;QUEEN OF SPADES;KING OF SPADES"⟩,
  ⟨0x1F0B1, "PLAYING CARD ", "ACE OF HEARTS;TWO OF HEARTS;THREE OF HEARTS"⟩,
  ⟨0x1F0B4, "PLAYING CARD ", "FOUR OF HEARTS;FIVE OF HEARTS;SIX OF HEARTS;SEVEN OF HEARTS"⟩,
  ⟨0x1F0B8, "PLAYING CARD ", "EIGHT OF HEARTS;NINE OF HEARTS;TEN OF HEARTS;JACK OF HEARTS"⟩,
  ⟨0x1F0BC, "PLAYING CARD ", "KNIGHT OF HEARTS;QUEEN OF HEARTS;KING OF HEARTS;RED JOKER"⟩,
  ⟨0x1F0C1, "PLAYING CARD ", "ACE OF DIAMONDS;TWO OF DIAMONDS;THREE OF DIAMONDS"⟩,
  ⟨0x1F0C4, "PLAYING CARD ", "FOUR OF DIAMONDS;FIVE OF DIAMONDS;SIX OF DIAMONDS;SEVEN OF DIAMONDS"⟩,
  ⟨0x1F0C8, "PLAYING CARD ", "EIGHT OF DIAMONDS;NINE OF DIAMONDS;TEN OF DIAMONDS;JACK OF DIAMONDS"⟩,
  ⟨0x1F0CC, "PLAYING CARD ", "KNIGHT OF DIAMONDS;QUEEN OF DIAMONDS;KING OF DIAMONDS;BLACK JOKER"⟩,
  ⟨0x1F0D1, "PLAYING CARD ", "ACE OF CLUBS;TWO OF CLUBS;THREE OF CLUBS"⟩,
  ⟨0x1F0D4, "PLAYING CARD ", "FOUR OF CLUBS;FIVE OF CLUBS;SIX OF CLUBS;SEVEN OF CLUBS"⟩,
  ⟨0x1F0D8, "PLAYING CARD ", "EIGHT OF CLUBS;NINE OF CLUBS;TEN OF CLUBS;JACK OF CLUBS"⟩,
  ⟨0x1F0DC, "PLAYING CARD ", "KNIGHT OF CLUBS;QUEEN OF CLUBS;KING OF CLUBS;WHITE JOKER"⟩,
  ⟨0x1F0E0, "PLAYING CARD ", "FOOL;TRUMP-1;TRUMP-2;TRUMP-3;TRUMP-4;TRUMP-5;TRUMP-6;TRUMP-7"⟩,
  ⟨0x1F0E8, "PLAYING CARD ", "TRUMP-8;TRUMP-9;TRUMP-10;TRUMP-11;TRUMP-12;TRUMP-13;TRUMP-14"⟩,
  ⟨0x1F0EF, "PLAYING CARD ", "TRUMP-15;TRUMP-16;TRUMP-17;TRUMP-18;TRUMP-19;TRUMP-20;TRUMP-21"⟩,
  ⟨0x1F100, "DIGIT ", "ZERO FULL STOP;ZERO COMMA;ONE COMMA;TWO COMMA;THREE COMMA"⟩,
  ⟨0x1F105, "DIGIT ", "FOUR COMMA;FIVE COMMA;SIX COMMA;SEVEN COMMA;EIGHT COMMA;NINE COMMA"⟩,
  ⟨0x1F10B, "DINGBAT ", "CIRCLED SANS-SERIF DIGIT ZERO;NEGATIVE CIRCLED SANS-SERIF DIGIT ZERO"⟩,
  ⟨0x1F10D, "CIRCLED ", "ZERO WITH SLASH;ANTICLOCKWISE ARROW;DOLLAR SIGN WITH OVERLAID BACKSLASH"⟩,
  ⟨0x1F110, "PARENTHESIZED LATIN CAPITAL LETTER ", "A;B;C"⟩,
  ⟨0x1F113, "PARENTHESIZED LATIN CAPITAL LETTER ", "D;E;F;G;H;I;J;K;L;M;N;O;P;Q;R;S;T;U;V;W;X;Y;Z"⟩,
  ⟨0x1F12A, "", "TORTOISE SHELL BRACKETED LATIN CAPITAL LETTER S"⟩,
  ⟨0x1F12B, "", "CIRCLED ITALIC LATIN CAPITAL LETTER C"⟩,
  ⟨0x1F12C, "", "CIRCLED ITALIC LATIN CAPITAL LETTER R;CIRCLED CD;CIRCLED WZ;COPYLEFT SYMBOL"⟩,
  ⟨0x1F130, "SQUARED LATIN CAPITAL LETTER ", "A;B;C;D;E;F;G;H;I;J;K;L;M;N;O;P;Q;R;S;T;U;V;W;X"⟩,
  ⟨0x1F148, "SQUARED ", "LATIN CAPITAL LETTER Y;LATIN CAPITAL LETTER Z;HV;MV;SD;SS;PPV;WC"⟩,
  ⟨0x1F150, "NEGATIVE CIRCLED LATIN CAPITAL LETTER ", "A;B;C;D"⟩,
  ⟨0x1F154, "NEGATIVE CIRCLED LATIN CAPITAL LETTER ", "E;F;G;H;I;J;K;L;M;N;O;P;Q;R;S;T;U;V;W;X;Y"⟩,
  ⟨0x1F169, "", "NEGATIVE CIRCLED LATIN CAPITAL LETTER Z;RAISED MC SIGN;RAISED MD SIGN"⟩,
  ⟨0x1F16C, "", "RAISED MR SIGN;CIRCLED CC;CIRCLED C WITH OVERLAID BACKSLASH;CIRCLED HUMAN FIGURE"⟩,
  ⟨0x1F170, "NEGATIVE SQUARED LATIN CAPITAL LETTER ", "A;B;C;D;E"⟩,
  ⟨0x1F175, "NEGATIVE SQUARED LATIN CAPITAL LETTER ", "F;G;H;I;J;K;L;M;N;O;P;Q;R;S;T;U;V;W;X;Y;Z"⟩,
  ⟨0x1F18A, "", "CROSSED NEGATIVE SQUARED LATIN CAPITAL LETTER P"⟩,
  ⟨0x1F18B, "NEGATIVE SQUARED ", "IC;PA;SA"⟩,
  ⟨0x1F18E, "", "NEGATIVE SQUARED AB;NEGATIVE SQUARED WC;SQUARE DJ;SQUARED CL;SQUARED COOL"⟩,
  ⟨0x1F193, "SQUARED ", "FREE;ID;NEW;NG;OK;SOS;UP WITH EXCLAMATION MARK;VS;THREE D;SECOND SCREEN"⟩,
  ⟨0x1F19D, "SQUARED ", "TWO K;FOUR K;EIGHT K;FIVE POINT ONE;SEVEN POINT ONE;TWENTY-TWO POINT TWO"⟩,
  ⟨0x1F1A3, "SQUARED ", "SIXTY P;ONE HUNDRED TWENTY P;LATIN SMALL LETTER D;HC;HDR;HI-RES"⟩,
  ⟨0x1F1A9, "", "SQUARED LOSSLESS;SQUARED SHV;SQUARED UHD;SQUARED VOD;MASK WORK SYMBOL"⟩,
  ⟨0x1F1E6, "REGIONAL INDICATOR SYMBOL LETTER ", "A;B"⟩,
  ⟨0x1F1E8, "REGIONAL INDICATOR SYMBOL LETTER ", "C;D;E;F;G;H;I;J;K;L;M;N;O;P;Q;R;S;T;U;V;W;X;Y;Z"⟩,
  ⟨0x1F200, "", "SQUARE HIRAGANA HOKA;SQUARED KATAKANA KOKO;SQUARED KATAKANA SA"⟩,
  ⟨0x1F210, "", "SQUARED CJK UNIFIED IDEOGRAPH-624B"⟩,
  ⟨0x1F211, "SQUARED ", "CJK UNIFIED IDEOGRAPH-5B57;CJK UNIFIED IDEOGRAPH-53CC;KATAKANA DE"⟩,
  ⟨0x1F214, "SQUARED CJK UNIFIED ", "IDEOGRAPH-4E8C;IDEOGRAPH-591A;IDEOGRAPH-89E3;IDEOGRAPH-5929"⟩,
  ⟨0x1F218, "SQUARED CJK UNIFIED ", "IDEOGRAPH-4EA4;IDEOGRAPH-6620;IDEOGRAPH-7121;IDEOGRAPH-6599"⟩,
  ⟨0x1F21C, "SQUARED CJK UNIFIED ", "IDEOGRAPH-524D;IDEOGRAPH-5F8C;IDEOGRAPH-518D;IDEOGRAPH-65B0"⟩,
  ⟨0x1F220, "SQUARED CJK UNIFIED ", "IDEOGRAPH-521D;IDEOGRAPH-7D42;IDEOGRAPH-751F;IDEOGRAPH-8CA9"⟩,
  ⟨0x1F224, "SQUARED CJK UNIFIED ", "IDEOGRAPH-58F0;IDEOGRAPH-5439;IDEOGRAPH-6F14;IDEOGRAPH-6295"⟩,
  ⟨0x1F228, "SQUARED CJK UNIFIED ", "IDEOGRAPH-6355;IDEOGRAPH-4E00;IDEOGRAPH-4E09;IDEOGRAPH-904A"⟩,
  ⟨0x1F22C, "SQUARED CJK UNIFIED ", "IDEOGRAPH-5DE6;IDEOGRAPH-4E2D;IDEOGRAPH-53F3;IDEOGRAPH-6307"⟩,
  ⟨0x1F230, "SQUARED CJK UNIFIED ", "IDEOGRAPH-8D70;IDEOGRAPH-6253;IDEOGRAPH-7981;IDEOGRAPH-7A7A"⟩,
  ⟨0x1F234, "SQUARED CJK UNIFIED ", "IDEOGRAPH-5408;IDEOGRAPH-6E80;IDEOGRAPH-6709;IDEOGRAPH-6708"⟩,
  ⟨0x1F238, "SQUARED CJK UNIFIED ", "IDEOGRAPH-7533;IDEOGRAPH-5272;IDEOGRAPH-55B6;IDEOGRAPH-914D"⟩,
  ⟨0x1F240, "", "TORTOISE SHELL BRACKETED CJK UNIFIED IDEOGRAPH-672C"⟩,
  ⟨0x1F241, "TORTOISE SHELL BRACKETED CJK UNIFIED ", "IDEOGRAPH-4E09;IDEOGRAPH-4E8C"⟩,
  ⟨0x1F243, "TORTOISE SHELL BRACKETED CJK UNIFIED ", "IDEOGRAPH-5B89;IDEOGRAPH-70B9"⟩,
  ⟨0x1F245, "TORTOISE SHELL BRACKETED CJK UNIFIED ", "IDEOGRAPH-6253;IDEOGRAPH-76D7"⟩,
  ⟨0x1F247, "TORTOISE SHELL BRACKETED CJK UNIFIED ", "IDEOGRAPH-52DD;IDEOGRAPH-6557"⟩,
  ⟨0x1F250, "CIRCLED IDEOGRAPH ", "ADVANTAGE;ACCEPT"⟩,
  ⟨0x1F260, "ROUNDED SYMBOL FOR ", "FU;LU;SHOU;XI;SHUANGXI;CAI"⟩]

/-- Weather, plants, food and events. -/
def pictureNames : List NameRun := [
  ⟨0x1F300, "", "CYCLONE;FOGGY;CLOSED UMBRELLA"⟩,
  ⟨0x1F303, "", "NIGHT WITH STARS;SUNRISE OVER MOUNTAINS;SUNRISE;CITYSCAPE AT DUSK"⟩,
  ⟨0x1F307, "", "SUNSET OVER BUILDINGS;RAINBOW;BRIDGE AT NIGHT;WATER WAVE;VOLCANO;MILKY WAY"⟩,
  ⟨0x1F30D, "EARTH GLOBE ", "EUROPE-AFRICA;AMERICAS;ASIA-AUSTRALIA"⟩,
  ⟨0x1F310, "", "GLOBE WITH MERIDIANS;NEW MOON SYMBOL;WAXING CRESCENT MOON SYMBOL"⟩,
  ⟨0x1F313, "", "FIRST QUARTER MOON SYMBOL;WAXING GIBBOUS MOON SYMBOL;FULL MOON SYMBOL"⟩,
  ⟨0x1F316, "", "WANING GIBBOUS MOON SYMBOL;LAST QUARTER MOON SYMBOL;WANING CRESCENT MOON SYMBOL"⟩,
  ⟨0x1F319, "", "CRESCENT MOON;NEW MOON WITH FACE;FIRST QUARTER MOON WITH FACE"⟩,
  ⟨0x1F31C, "", "LAST QUARTER MOON WITH FACE;FULL MOON WITH FACE;SUN WITH FACE;GLOWING STAR"⟩,
  ⟨0x1F320, "", "SHOOTING STAR;THERMOMETER;BLACK DROPLET;WHITE SUN;WHITE SUN WITH SMALL CLOUD"⟩,
  ⟨0x1F325, "", "WHITE SUN BEHIND CLOUD;WHITE SUN BEHIND CLOUD WITH RAIN;CLOUD WITH RAIN"⟩,
  ⟨0x1F328, "", "CLOUD WITH SNOW;CLOUD WITH LIGHTNING;CLOUD WITH TORNADO;FOG;WIND BLOWING FACE"⟩,
  ⟨0x1F32D, "", "HOT DOG;TACO;BURRITO;CHESTNUT;SEEDLING;EVERGREEN TREE;DECIDUOUS TREE"⟩,
  ⟨0x1F334, "", "PALM TREE;CACTUS;HOT PEPPER;TULIP;CHERRY BLOSSOM;ROSE;HIBISCUS;SUNFLOWER"⟩,
  ⟨0x1F33C, "", "BLOSSOM;EAR OF MAIZE;EAR OF RICE;HERB;FOUR LEAF CLOVER;MAPLE LEAF;FALLEN LEAF"⟩,
  ⟨0x1F343, "", "LEAF FLUTTERING IN WIND;MUSHROOM;TOMATO;AUBERGINE;GRAPES;MELON;WATERMELON"⟩,
  ⟨0x1F34A, "", "TANGERINE;LEMON;BANANA;PINEAPPLE;RED APPLE;GREEN APPLE;PEAR;PEACH;CHERRIES"⟩,
  ⟨0x1F353, "", "STRAWBERRY;HAMBURGER;SLICE OF PIZZA;MEAT ON BONE;POULTRY LEG;RICE CRACKER"⟩,
  ⟨0x1F359, "", "RICE BALL;COOKED RICE;CURRY AND RICE;STEAMING BOWL;SPAGHETTI;BREAD;FRENCH FRIES"⟩,
  ⟨0x1F360, "", "ROASTED SWEET POTATO;DANGO;ODEN;SUSHI;FRIED SHRIMP;FISH CAKE WITH SWIRL DESIGN"⟩,
  ⟨0x1F366, "", "SOFT ICE CREAM;SHAVED ICE;ICE CREAM;DOUGHNUT;COOKIE;CHOCOLATE BAR;CANDY;LOLLIPOP"⟩,
  ⟨0x1F36E, "", "CUSTARD;HONEY POT;SHORTCAKE;BENTO BOX;POT OF FOOD;COOKING;FORK AND KNIFE"⟩,
  ⟨0x1F375, "", "TEACUP WITHOUT HANDLE;SAKE BOTTLE AND CUP;WINE GLASS;COCKTAIL GLASS"⟩,
  ⟨0x1F379, "", "TROPICAL DRINK;BEER MUG;CLINKING BEER MUGS;BABY BOTTLE;FORK AND KNIFE WITH PLATE"⟩,
  ⟨0x1F37E, "", "BOTTLE WITH POPPING CORK;POPCORN;RIBBON;WRAPPED PRESENT;BIRTHDAY CAKE"⟩,
  ⟨0x1F383, "", "JACK-O-LANTERN;CHRISTMAS TREE;FATHER CHRISTMAS;FIREWORKS;FIREWORK SPARKLER"⟩,
  ⟨0x1F388, "", "BALLOON;PARTY POPPER;CONFETTI BALL;TANABATA TREE;CROSSED FLAGS;PINE DECORATION"⟩,
  ⟨0x1F38E, "", "JAPANESE DOLLS;CARP STREAMER;WIND CHIME;MOON VIEWING CEREMONY;SCHOOL SATCHEL"⟩,
  ⟨0x1F393, "", "GRADUATION CAP;HEART WITH TIP ON THE LEFT;BOUQUET OF FLOWERS;MILITARY MEDAL"⟩,
  ⟨0x1F397, "", "REMINDER RIBBON;MUSICAL KEYBOARD WITH JACKS;STUDIO MICROPHONE;LEVEL SLIDER"⟩,
  ⟨0x1F39B, "", "CONTROL KNOBS;BEAMED ASCENDING MUSICAL NOTES;BEAMED DESCENDING MUSICAL NOTES"⟩,
  ⟨0x1F39E, "", "FILM FRAMES;ADMISSION TICKETS;CAROUSEL HORSE;FERRIS WHEEL;ROLLER COASTER"⟩,
  ⟨0x1F3A3, "", "FISHING POLE AND FISH;MICROPHONE;MOVIE CAMERA;CINEMA;HEADPHONE;ARTIST PALETTE"⟩,
  ⟨0x1F3A9, "", "TOP HAT;CIRCUS TENT;TICKET;CLAPPER BOARD;PERFORMING ARTS;VIDEO GAME"⟩,
  ⟨0x1F3AF, "", "DIRECT HIT;SLOT MACHINE;BILLIARDS;GAME DIE;BOWLING;FLOWER PLAYING CARDS"⟩,
  ⟨0x1F3B5, "", "MUSICAL NOTE;MULTIPLE MUSICAL NOTES;SAXOPHONE;GUITAR;MUSICAL KEYBOARD"⟩,
  ⟨0x1F3BA, "", "TRUMPET;VIOLIN;MUSICAL SCORE;RUNNING SHIRT WITH SASH;TENNIS RACQUET AND BALL"⟩,
  ⟨0x1F3BF, "", "SKI AND SKI BOOT;BASKETBALL AND HOOP;CHEQUERED FLAG;SNOWBOARDER"⟩,
  ⟨0x1F3C3, "", "RUNNER;SURFER;SPORTS MEDAL;TROPHY;HORSE RACING;AMERICAN FOOTBALL;RUGBY FOOTBALL"⟩,
  ⟨0x1F3CA, "", "SWIMMER;WEIGHT LIFTER;GOLFER;RACING MOTORCYCLE;RACING CAR;CRICKET BAT AND BALL"⟩,
  ⟨0x1F3D0, "", "VOLLEYBALL;FIELD HOCKEY STICK AND BALL;ICE HOCKEY STICK AND PUCK"⟩,
  ⟨0x1F3D3, "", "TABLE TENNIS PADDLE AND BALL;SNOW CAPPED MOUNTAIN;CAMPING;BEACH WITH UMBRELLA"⟩,
  ⟨0x1F3D7, "", "BUILDING CONSTRUCTION;HOUSE BUILDINGS;CITYSCAPE;DERELICT HOUSE BUILDING"⟩,
  ⟨0x1F3DB, "", "CLASSICAL BUILDING;DESERT;DESERT ISLAND;NATIONAL PARK;STADIUM;HOUSE BUILDING"⟩,
  ⟨0x1F3E1, "", "HOUSE WITH GARDEN;OFFICE BUILDING;JAPANESE POST OFFICE;EUROPEAN POST OFFICE"⟩,
  ⟨0x1F3E5, "", "HOSPITAL;BANK;AUTOMATED TELLER MACHINE;HOTEL;LOVE HOTEL;CONVENIENCE STORE"⟩,
  ⟨0x1F3EB, "", "SCHOOL;DEPARTMENT STORE;FACTORY;IZAKAYA LANTERN;JAPANESE CASTLE;EUROPEAN CASTLE"⟩,
  ⟨0x1F3F1, "", "WHITE PENNANT;BLACK PENNANT;WAVING WHITE FLAG;WAVING BLACK FLAG;ROSETTE"⟩,
  ⟨0x1F3F6, "", "BLACK ROSETTE;LABEL;BADMINTON RACQUET AND SHUTTLECOCK;BOW AND ARROW;AMPHORA"⟩,
  ⟨0x1F3FB, "EMOJI MODIFIER FITZPATRICK ", "TYPE-1-2;TYPE-3;TYPE-4;TYPE-5;TYPE-6"⟩]

/-- Animals, people and things. -/
def beingNames : List NameRun := [
  ⟨0x1F400, "", "RAT;MOUSE;OX;WATER BUFFALO"⟩,
  ⟨0x1F404, "", "COW;TIGER;LEOPARD;RABBIT;CAT;DRAGON;CROCODILE;WHALE;SNAIL;SNAKE;HORSE"⟩,
  ⟨0x1F40F, "", "RAM;GOAT;SHEEP;MONKEY;ROOSTER;CHICKEN;DOG;PIG;BOAR;ELEPHANT;OCTOPUS;SPIRAL SHELL"⟩,
  ⟨0x1F41B, "", "BUG;ANT;HONEYBEE;LADY BEETLE;FISH;TROPICAL FISH;BLOWFISH;TURTLE;HATCHING CHICK"⟩,
  ⟨0x1F424, "", "BABY CHICK;FRONT-FACING BABY CHICK;BIRD;PENGUIN;KOALA;POODLE;DROMEDARY CAMEL"⟩,
  ⟨0x1F42B, "", "BACTRIAN CAMEL;DOLPHIN;MOUSE FACE;COW FACE;TIGER FACE;RABBIT FACE"⟩,
  ⟨0x1F431, "", "CAT FACE;DRAGON FACE;SPOUTING WHALE;HORSE FACE;MONKEY FACE;DOG FACE;PIG FACE"⟩,
  ⟨0x1F438, "", "FROG FACE;HAMSTER FACE;WOLF FACE;BEAR FACE;PANDA FACE;PIG NOSE;PAW PRINTS"⟩,
  ⟨0x1F43F, "", "CHIPMUNK;EYES;EYE;EAR;NOSE;MOUTH;TONGUE;WHITE UP POINTING BACKHAND INDEX"⟩,
  ⟨0x1F447, "WHITE ", "DOWN POINTING BACKHAND INDEX;LEFT POINTING BACKHAND INDEX"⟩,
  ⟨0x1F449, "", "WHITE RIGHT POINTING BACKHAND INDEX;FISTED HAND SIGN;WAVING HAND SIGN"⟩,
  ⟨0x1F44C, "", "OK HAND SIGN;THUMBS UP SIGN;THUMBS DOWN SIGN;CLAPPING HANDS SIGN"⟩,
  ⟨0x1F450, "", "OPEN HANDS SIGN;CROWN;WOMANS HAT;EYEGLASSES;NECKTIE;T-SHIRT;JEANS"⟩,
  ⟨0x1F457, "", "DRESS;KIMONO;BIKINI;WOMANS CLOTHES;PURSE;HANDBAG;POUCH;MANS SHOE;ATHLETIC SHOE"⟩,
  ⟨0x1F460, "", "HIGH-HEELED SHOE;WOMANS SANDAL;WOMANS BOOTS;FOOTPRINTS;BUST IN SILHOUETTE"⟩,
  ⟨0x1F465, "", "BUSTS IN SILHOUETTE;BOY;GIRL;MAN;WOMAN;FAMILY;MAN AND WOMAN HOLDING HANDS"⟩,
  ⟨0x1F46C, "", "TWO MEN HOLDING HANDS;TWO WOMEN HOLDING HANDS;POLICE OFFICER"⟩,
  ⟨0x1F46F, "", "WOMAN WITH BUNNY EARS;BRIDE WITH VEIL;PERSON WITH BLOND HAIR;MAN WITH GUA PI MAO"⟩,
  ⟨0x1F473, "", "MAN WITH TURBAN;OLDER MAN;OLDER WOMAN;BABY;CONSTRUCTION WORKER"⟩,
  ⟨0x1F478, "", "PRINCESS;JAPANESE OGRE;JAPANESE GOBLIN;GHOST;BABY ANGEL;EXTRATERRESTRIAL ALIEN"⟩,
  ⟨0x1F47E, "", "ALIEN MONSTER;IMP;SKULL;INFORMATION DESK PERSON;GUARDSMAN;DANCER"⟩,
  ⟨0x1F484, "", "LIPSTICK;NAIL POLISH;FACE MASSAGE;HAIRCUT;BARBER POLE;SYRINGE;PILL;KISS MARK"⟩,
  ⟨0x1F48C, "", "LOVE LETTER;RING;GEM STONE;KISS;BOUQUET;COUPLE WITH HEART;WEDDING;BEATING HEART"⟩,
  ⟨0x1F494, "", "BROKEN HEART;TWO HEARTS;SPARKLING HEART;GROWING HEART;HEART WITH ARROW"⟩,
  ⟨0x1F499, "", "BLUE HEART;GREEN HEART;YELLOW HEART;PURPLE HEART;HEART WITH RIBBON"⟩,
  ⟨0x1F49E, "", "REVOLVING HEARTS;HEART DECORATION;DIAMOND SHAPE WITH A DOT INSIDE"⟩,
  ⟨0x1F4A1, "", "ELECTRIC LIGHT BULB;ANGER SYMBOL;BOMB;SLEEPING SYMBOL"⟩,
  ⟨0x1F4A5, "", "COLLISION SYMBOL;SPLASHING SWEAT SYMBOL;DROPLET;DASH SYMBOL;PILE OF POO"⟩,
  ⟨0x1F4AA, "", "FLEXED BICEPS;DIZZY SYMBOL;SPEECH BALLOON;THOUGHT BALLOON;WHITE FLOWER"⟩,
  ⟨0x1F4AF, "", "HUNDRED POINTS SYMBOL;MONEY BAG;CURRENCY EXCHANGE;HEAVY DOLLAR SIGN;CREDIT CARD"⟩,
  ⟨0x1F4B4, "BANKNOTE WITH ", "YEN SIGN;DOLLAR SIGN;EURO SIGN;POUND SIGN"⟩,
  ⟨0x1F4B8, "", "MONEY WITH WINGS;CHART WITH UPWARDS TREND AND YEN SIGN;SEAT;PERSONAL COMPUTER"⟩,
  ⟨0x1F4BC, "", "BRIEFCASE;MINIDISC;FLOPPY DISK;OPTICAL DISC;DVD;FILE FOLDER;OPEN FILE FOLDER"⟩,
  ⟨0x1F4C3, "", "PAGE WITH CURL;PAGE FACING UP;CALENDAR;TEAR-OFF CALENDAR;CARD INDEX"⟩,
  ⟨0x1F4C8, "", "CHART WITH UPWARDS TREND;CHART WITH DOWNWARDS TREND;BAR CHART;CLIPBOARD"⟩,
  ⟨0x1F4CC, "", "PUSHPIN;ROUND PUSHPIN;PAPERCLIP;STRAIGHT RULER;TRIANGULAR RULER;BOOKMARK TABS"⟩,
  ⟨0x1F4D2, "", "LEDGER;NOTEBOOK;NOTEBOOK WITH DECORATIVE COVER;CLOSED BOOK;OPEN BOOK;GREEN BOOK"⟩,
  ⟨0x1F4D8, "", "BLUE BOOK;ORANGE BOOK;BOOKS;NAME BADGE;SCROLL;MEMO;TELEPHONE RECEIVER;PAGER"⟩,
  ⟨0x1F4E0, "", "FAX MACHINE;SATELLITE ANTENNA;PUBLIC ADDRESS LOUDSPEAKER;CHEERING MEGAPHONE"⟩,
  ⟨0x1F4E4, "", "OUTBOX TRAY;INBOX TRAY;PACKAGE;E-MAIL SYMBOL;INCOMING ENVELOPE"⟩,
  ⟨0x1F4E9, "", "ENVELOPE WITH DOWNWARDS ARROW ABOVE;CLOSED MAILBOX WITH LOWERED FLAG"⟩,
  ⟨0x1F4EB, "", "CLOSED MAILBOX WITH RAISED FLAG;OPEN MAILBOX WITH RAISED FLAG"⟩,
  ⟨0x1F4ED, "", "OPEN MAILBOX WITH LOWERED FLAG;POSTBOX;POSTAL HORN;NEWSPAPER;MOBILE PHONE"⟩,
  ⟨0x1F4F2, "", "MOBILE PHONE WITH RIGHTWARDS ARROW AT LEFT;VIBRATION MODE;MOBILE PHONE OFF"⟩,
  ⟨0x1F4F5, "", "NO MOBILE PHONES;ANTENNA WITH BARS;CAMERA;CAMERA WITH FLASH;VIDEO CAMERA"⟩,
  ⟨0x1F4FA, "", "TELEVISION;RADIO;VIDEOCASSETTE;FILM PROJECTOR;PORTABLE STEREO;PRAYER BEADS"⟩,
  ⟨0x1F500, "", "TWISTED RIGHTWARDS ARROWS;CLOCKWISE RIGHTWARDS AND LEFTWARDS OPEN CIRCLE ARROWS"⟩,
  ⟨0x1F502, "", "CLOCKWISE RIGHTWARDS AND LEFTWARDS OPEN CIRCLE ARROWS WITH CIRCLED ONE OVERLAY"⟩,
  ⟨0x1F503, "", "CLOCKWISE DOWNWARDS AND UPWARDS OPEN CIRCLE ARROWS"⟩,
  ⟨0x1F504, "", "ANTICLOCKWISE DOWNWARDS AND UPWARDS OPEN CIRCLE ARROWS"⟩,
  ⟨0x1F505, "", "LOW BRIGHTNESS SYMBOL;HIGH BRIGHTNESS SYMBOL;SPEAKER WITH CANCELLATION STROKE"⟩,
  ⟨0x1F508, "", "SPEAKER;SPEAKER WITH ONE SOUND WAVE;SPEAKER WITH THREE SOUND WAVES"⟩,
  ⟨0x1F50B, "", "BATTERY;ELECTRIC PLUG;LEFT-POINTING MAGNIFYING GLASS"⟩,
  ⟨0x1F50E, "", "RIGHT-POINTING MAGNIFYING GLASS;LOCK WITH INK PEN;CLOSED LOCK WITH KEY"⟩,
  ⟨0x1F511, "", "KEY;LOCK;OPEN LOCK;BELL;BELL WITH CANCELLATION STROKE;BOOKMARK;LINK SYMBOL"⟩,
  ⟨0x1F518, "", "RADIO BUTTON;BACK WITH LEFTWARDS ARROW ABOVE;END WITH LEFTWARDS ARROW ABOVE"⟩,
  ⟨0x1F51B, "", "ON WITH EXCLAMATION MARK WITH LEFT RIGHT ARROW ABOVE"⟩,
  ⟨0x1F51C, "", "SOON WITH RIGHTWARDS ARROW ABOVE;TOP WITH UPWARDS ARROW ABOVE"⟩,
  ⟨0x1F51E, "", "NO ONE UNDER EIGHTEEN SYMBOL;KEYCAP TEN;INPUT SYMBOL FOR LATIN CAPITAL LETTERS"⟩,
  ⟨0x1F521, "INPUT SYMBOL FOR ", "LATIN SMALL LETTERS;NUMBERS;SYMBOLS;LATIN LETTERS"⟩,
  ⟨0x1F525, "", "FIRE;ELECTRIC TORCH;WRENCH;HAMMER;NUT AND BOLT;HOCHO;PISTOL;MICROSCOPE;TELESCOPE"⟩,
  ⟨0x1F52E, "", "CRYSTAL BALL;SIX POINTED STAR WITH MIDDLE DOT;JAPANESE SYMBOL FOR BEGINNER"⟩,
  ⟨0x1F531, "", "TRIDENT EMBLEM;BLACK SQUARE BUTTON;WHITE SQUARE BUTTON;LARGE RED CIRCLE"⟩,
  ⟨0x1F535, "", "LARGE BLUE CIRCLE;LARGE ORANGE DIAMOND;LARGE BLUE DIAMOND;SMALL ORANGE DIAMOND"⟩,
  ⟨0x1F539, "", "SMALL BLUE DIAMOND;UP-POINTING RED TRIANGLE;DOWN-POINTING RED TRIANGLE"⟩,
  ⟨0x1F53C, "", "UP-POINTING SMALL RED TRIANGLE;DOWN-POINTING SMALL RED TRIANGLE"⟩,
  ⟨0x1F53E, "", "LOWER RIGHT SHADOWED WHITE CIRCLE;UPPER RIGHT SHADOWED WHITE CIRCLE"⟩,
  ⟨0x1F540, "", "CIRCLED CROSS POMMEE;CROSS POMMEE WITH HALF-CIRCLE BELOW;CROSS POMMEE"⟩,
  ⟨0x1F543, "NOTCHED ", "LEFT SEMICIRCLE WITH THREE DOTS;RIGHT SEMICIRCLE WITH THREE DOTS"⟩,
  ⟨0x1F545, "", "SYMBOL FOR MARKS CHAPTER;WHITE LATIN CROSS;HEAVY LATIN CROSS;CELTIC CROSS"⟩,
  ⟨0x1F549, "", "OM SYMBOL;DOVE OF PEACE;KAABA;MOSQUE;SYNAGOGUE;MENORAH WITH NINE BRANCHES"⟩,
  ⟨0x1F54F, "", "BOWL OF HYGIEIA;CLOCK FACE ONE OCLOCK;CLOCK FACE TWO OCLOCK"⟩,
  ⟨0x1F552, "CLOCK FACE ", "THREE OCLOCK;FOUR OCLOCK;FIVE OCLOCK;SIX OCLOCK;SEVEN OCLOCK"⟩,
  ⟨0x1F557, "CLOCK FACE ", "EIGHT OCLOCK;NINE OCLOCK;TEN OCLOCK;ELEVEN OCLOCK;TWELVE OCLOCK"⟩,
  ⟨0x1F55C, "CLOCK FACE ", "ONE-THIRTY;TWO-THIRTY;THREE-THIRTY;FOUR-THIRTY;FIVE-THIRTY;SIX-THIRTY"⟩,
  ⟨0x1F562, "CLOCK FACE ", "SEVEN-THIRTY;EIGHT-THIRTY;NINE-THIRTY;TEN-THIRTY;ELEVEN-THIRTY"⟩,
  ⟨0x1F567, "", "CLOCK FACE TWELVE-THIRTY;RIGHT SPEAKER;RIGHT SPEAKER WITH ONE SOUND WAVE"⟩,
  ⟨0x1F56A, "", "RIGHT SPEAKER WITH THREE SOUND WAVES;BULLHORN;BULLHORN WITH SOUND WAVES"⟩,
  ⟨0x1F56D, "", "RINGING BELL;BOOK;CANDLE;MANTELPIECE CLOCK;BLACK SKULL AND CROSSBONES"⟩,
  ⟨0x1F572, "", "NO PIRACY;HOLE;MAN IN BUSINESS SUIT LEVITATING;SLEUTH OR SPY;DARK SUNGLASSES"⟩,
  ⟨0x1F577, "", "SPIDER;SPIDER WEB;JOYSTICK;MAN DANCING;LEFT HAND TELEPHONE RECEIVER"⟩,
  ⟨0x1F57C, "", "TELEPHONE RECEIVER WITH PAGE;RIGHT HAND TELEPHONE RECEIVER"⟩,
  ⟨0x1F57E, "", "WHITE TOUCHTONE TELEPHONE;BLACK TOUCHTONE TELEPHONE;TELEPHONE ON TOP OF MODEM"⟩,
  ⟨0x1F581, "", "CLAMSHELL MOBILE PHONE;BACK OF ENVELOPE;STAMPED ENVELOPE;ENVELOPE WITH LIGHTNING"⟩,
  ⟨0x1F585, "", "FLYING ENVELOPE;PEN OVER STAMPED ENVELOPE;LINKED PAPERCLIPS;BLACK PUSHPIN"⟩,
  ⟨0x1F589, "LOWER LEFT ", "PENCIL;BALLPOINT PEN;FOUNTAIN PEN;PAINTBRUSH;CRAYON"⟩,
  ⟨0x1F58E, "", "LEFT WRITING HAND;TURNED OK HAND SIGN;RAISED HAND WITH FINGERS SPLAYED"⟩,
  ⟨0x1F591, "REVERSED ", "RAISED HAND WITH FINGERS SPLAYED;THUMBS UP SIGN"⟩,
  ⟨0x1F593, "REVERSED ", "THUMBS DOWN SIGN;VICTORY HAND;HAND WITH MIDDLE FINGER EXTENDED"⟩,
  ⟨0x1F596, "", "RAISED HAND WITH PART BETWEEN MIDDLE AND RING FINGERS"⟩,
  ⟨0x1F597, "", "WHITE DOWN POINTING LEFT HAND INDEX;SIDEWAYS WHITE LEFT POINTING INDEX"⟩,
  ⟨0x1F599, "SIDEWAYS ", "WHITE RIGHT POINTING INDEX;BLACK LEFT POINTING INDEX"⟩,
  ⟨0x1F59B, "", "SIDEWAYS BLACK RIGHT POINTING INDEX;BLACK LEFT POINTING BACKHAND INDEX"⟩,
  ⟨0x1F59D, "", "BLACK RIGHT POINTING BACKHAND INDEX;SIDEWAYS WHITE UP POINTING INDEX"⟩,
  ⟨0x1F59F, "SIDEWAYS ", "WHITE DOWN POINTING INDEX;BLACK UP POINTING INDEX"⟩,
  ⟨0x1F5A1, "", "SIDEWAYS BLACK DOWN POINTING INDEX;BLACK UP POINTING BACKHAND INDEX"⟩,
  ⟨0x1F5A3, "", "BLACK DOWN POINTING BACKHAND INDEX;BLACK HEART;DESKTOP COMPUTER"⟩,
  ⟨0x1F5A6, "", "KEYBOARD AND MOUSE;THREE NETWORKED COMPUTERS;PRINTER;POCKET CALCULATOR"⟩,
  ⟨0x1F5AA, "", "BLACK HARD SHELL FLOPPY DISK;WHITE HARD SHELL FLOPPY DISK;SOFT SHELL FLOPPY DISK"⟩,
  ⟨0x1F5AD, "", "TAPE CARTRIDGE;WIRED KEYBOARD;ONE BUTTON MOUSE;TWO BUTTON MOUSE"⟩,
  ⟨0x1F5B1, "", "THREE BUTTON MOUSE;TRACKBALL;OLD PERSONAL COMPUTER;HARD DISK;SCREEN;PRINTER ICON"⟩,
  ⟨0x1F5B7, "", "FAX ICON;OPTICAL DISC ICON;DOCUMENT WITH TEXT;DOCUMENT WITH TEXT AND PICTURE"⟩,
  ⟨0x1F5BB, "", "DOCUMENT WITH PICTURE;FRAME WITH PICTURE;FRAME WITH TILES"⟩,
  ⟨0x1F5BE, "", "FRAME WITH AN X;BLACK FOLDER;FOLDER;OPEN FOLDER;CARD INDEX DIVIDERS"⟩,
  ⟨0x1F5C3, "", "CARD FILE BOX;FILE CABINET;EMPTY NOTE;EMPTY NOTE PAGE;EMPTY NOTE PAD"⟩,
  ⟨0x1F5C8, "", "NOTE;NOTE PAGE;NOTE PAD;EMPTY DOCUMENT;EMPTY PAGE;EMPTY PAGES;DOCUMENT"⟩,
  ⟨0x1F5CF, "", "PAGE;PAGES;WASTEBASKET;SPIRAL NOTE PAD;SPIRAL CALENDAR PAD;DESKTOP WINDOW"⟩,
  ⟨0x1F5D5, "", "MINIMIZE;MAXIMIZE;OVERLAP;CLOCKWISE RIGHT AND LEFT SEMICIRCLE ARROWS"⟩,
  ⟨0x1F5D9, "", "CANCELLATION X;INCREASE FONT SIZE SYMBOL;DECREASE FONT SIZE SYMBOL;COMPRESSION"⟩,
  ⟨0x1F5DD, "", "OLD KEY;ROLLED-UP NEWSPAPER;PAGE WITH CIRCLED TEXT;STOCK CHART;DAGGER KNIFE;LIPS"⟩,
  ⟨0x1F5E3, "", "SPEAKING HEAD IN SILHOUETTE;THREE RAYS ABOVE;THREE RAYS BELOW;THREE RAYS LEFT"⟩,
  ⟨0x1F5E7, "", "THREE RAYS RIGHT;LEFT SPEECH BUBBLE;RIGHT SPEECH BUBBLE;TWO SPEECH BUBBLES"⟩,
  ⟨0x1F5EB, "", "THREE SPEECH BUBBLES;LEFT THOUGHT BUBBLE;RIGHT THOUGHT BUBBLE;LEFT ANGER BUBBLE"⟩,
  ⟨0x1F5EF, "", "RIGHT ANGER BUBBLE;MOOD BUBBLE;LIGHTNING MOOD BUBBLE;LIGHTNING MOOD"⟩,
  ⟨0x1F5F3, "BALLOT ", "BOX WITH BALLOT;SCRIPT X;BOX WITH SCRIPT X;BOLD SCRIPT X"⟩,
  ⟨0x1F5F7, "", "BALLOT BOX WITH BOLD SCRIPT X;LIGHT CHECK MARK;BALLOT BOX WITH BOLD CHECK"⟩,
  ⟨0x1F5FA, "", "WORLD MAP;MOUNT FUJI;TOKYO TOWER;STATUE OF LIBERTY;SILHOUETTE OF JAPAN;MOYAI"⟩]

/-- Faces, gestures and ornaments. -/
def faceNames : List NameRun := [
  ⟨0x1F600, "GRINNING ", "FACE;FACE WITH SMILING EYES"⟩,
  ⟨0x1F602, "", "FACE WITH TEARS OF JOY;SMILING FACE WITH OPEN MOUTH"⟩,
  ⟨0x1F604, "SMILING FACE WITH OPEN MOUTH AND ", "SMILING EYES;COLD SWEAT;TIGHTLY-CLOSED EYES"⟩,
  ⟨0x1F607, "", "SMILING FACE WITH HALO;SMILING FACE WITH HORNS;WINKING FACE"⟩,
  ⟨0x1F60A, "", "SMILING FACE WITH SMILING EYES;FACE SAVOURING DELICIOUS FOOD;RELIEVED FACE"⟩,
  ⟨0x1F60D, "", "SMILING FACE WITH HEART-SHAPED EYES;SMILING FACE WITH SUNGLASSES;SMIRKING FACE"⟩,
  ⟨0x1F610, "", "NEUTRAL FACE;EXPRESSIONLESS FACE;UNAMUSED FACE;FACE WITH COLD SWEAT"⟩,
  ⟨0x1F614, "", "PENSIVE FACE;CONFUSED FACE;CONFOUNDED FACE;KISSING FACE;FACE THROWING A KISS"⟩,
  ⟨0x1F619, "KISSING FACE WITH ", "SMILING EYES;CLOSED EYES"⟩,
  ⟨0x1F61B, "FACE WITH STUCK-OUT ", "TONGUE;TONGUE AND WINKING EYE;TONGUE AND TIGHTLY-CLOSED EYES"⟩,
  ⟨0x1F61E, "", "DISAPPOINTED FACE;WORRIED FACE;ANGRY FACE;POUTING FACE;CRYING FACE"⟩,
  ⟨0x1F623, "", "PERSEVERING FACE;FACE WITH LOOK OF TRIUMPH;DISAPPOINTED BUT RELIEVED FACE"⟩,
  ⟨0x1F626, "", "FROWNING FACE WITH OPEN MOUTH;ANGUISHED FACE;FEARFUL FACE;WEARY FACE;SLEEPY FACE"⟩,
  ⟨0x1F62B, "", "TIRED FACE;GRIMACING FACE;LOUDLY CRYING FACE;FACE WITH OPEN MOUTH;HUSHED FACE"⟩,
  ⟨0x1F630, "", "FACE WITH OPEN MOUTH AND COLD SWEAT;FACE SCREAMING IN FEAR;ASTONISHED FACE"⟩,
  ⟨0x1F633, "", "FLUSHED FACE;SLEEPING FACE;DIZZY FACE;FACE WITHOUT MOUTH;FACE WITH MEDICAL MASK"⟩,
  ⟨0x1F638, "", "GRINNING CAT FACE WITH SMILING EYES;CAT FACE WITH TEARS OF JOY"⟩,
  ⟨0x1F63A, "SMILING CAT FACE WITH ", "OPEN MOUTH;HEART-SHAPED EYES"⟩,
  ⟨0x1F63C, "", "CAT FACE WITH WRY SMILE;KISSING CAT FACE WITH CLOSED EYES;POUTING CAT FACE"⟩,
  ⟨0x1F63F, "", "CRYING CAT FACE;WEARY CAT FACE;SLIGHTLY FROWNING FACE;SLIGHTLY SMILING FACE"⟩,
  ⟨0x1F643, "", "UPSIDE-DOWN FACE;FACE WITH ROLLING EYES;FACE WITH NO GOOD GESTURE"⟩,
  ⟨0x1F646, "", "FACE WITH OK GESTURE;PERSON BOWING DEEPLY;SEE-NO-EVIL MONKEY"⟩,
  ⟨0x1F649, "", "HEAR-NO-EVIL MONKEY;SPEAK-NO-EVIL MONKEY;HAPPY PERSON RAISING ONE HAND"⟩,
  ⟨0x1F64C, "PERSON ", "RAISING BOTH HANDS IN CELEBRATION;FROWNING"⟩,
  ⟨0x1F64E, "", "PERSON WITH POUTING FACE;PERSON WITH FOLDED HANDS;NORTH WEST POINTING LEAF"⟩,
  ⟨0x1F651, "", "SOUTH WEST POINTING LEAF;NORTH EAST POINTING LEAF;SOUTH EAST POINTING LEAF"⟩,
  ⟨0x1F654, "TURNED ", "NORTH WEST POINTING LEAF;SOUTH WEST POINTING LEAF"⟩,
  ⟨0x1F656, "TURNED ", "NORTH EAST POINTING LEAF;SOUTH EAST POINTING LEAF"⟩,
  ⟨0x1F658, "", "NORTH WEST POINTING VINE LEAF;SOUTH WEST POINTING VINE LEAF"⟩,
  ⟨0x1F65A, "", "NORTH EAST POINTING VINE LEAF;SOUTH EAST POINTING VINE LEAF"⟩,
  ⟨0x1F65C, "HEAVY ", "NORTH WEST POINTING VINE LEAF;SOUTH WEST POINTING VINE LEAF"⟩,
  ⟨0x1F65E, "HEAVY ", "NORTH EAST POINTING VINE LEAF;SOUTH EAST POINTING VINE LEAF"⟩,
  ⟨0x1F660, "", "NORTH WEST POINTING BUD;SOUTH WEST POINTING BUD"⟩,
  ⟨0x1F662, "", "NORTH EAST POINTING BUD;SOUTH EAST POINTING BUD;HEAVY NORTH WEST POINTING BUD"⟩,
  ⟨0x1F665, "HEAVY ", "SOUTH WEST POINTING BUD;NORTH EAST POINTING BUD;SOUTH EAST POINTING BUD"⟩,
  ⟨0x1F668, "HOLLOW QUILT SQUARE ", "ORNAMENT;ORNAMENT IN BLACK SQUARE"⟩,
  ⟨0x1F66A, "SOLID QUILT SQUARE ", "ORNAMENT;ORNAMENT IN BLACK SQUARE"⟩,
  ⟨0x1F66C, "", "LEFTWARDS ROCKET;UPWARDS ROCKET;RIGHTWARDS ROCKET"⟩,
  ⟨0x1F66F, "", "DOWNWARDS ROCKET;SCRIPT LIGATURE ET ORNAMENT;HEAVY SCRIPT LIGATURE ET ORNAMENT"⟩,
  ⟨0x1F672, "", "LIGATURE OPEN ET ORNAMENT;HEAVY LIGATURE OPEN ET ORNAMENT"⟩,
  ⟨0x1F674, "", "HEAVY AMPERSAND ORNAMENT;SWASH AMPERSAND ORNAMENT"⟩,
  ⟨0x1F676, "", "SANS-SERIF HEAVY DOUBLE TURNED COMMA QUOTATION MARK ORNAMENT"⟩,
  ⟨0x1F677, "", "SANS-SERIF HEAVY DOUBLE COMMA QUOTATION MARK ORNAMENT"⟩,
  ⟨0x1F678, "", "SANS-SERIF HEAVY LOW DOUBLE COMMA QUOTATION MARK ORNAMENT"⟩,
  ⟨0x1F679, "", "HEAVY INTERROBANG ORNAMENT;SANS-SERIF INTERROBANG ORNAMENT"⟩,
  ⟨0x1F67B, "", "HEAVY SANS-SERIF INTERROBANG ORNAMENT;VERY HEAVY SOLIDUS"⟩,
  ⟨0x1F67D, "", "VERY HEAVY REVERSE SOLIDUS;CHECKER BOARD;REVERSE CHECKER BOARD"⟩]

/-- Travel and signs on the way. -/
def travelNames : List NameRun := [
  ⟨0x1F680, "", "ROCKET;HELICOPTER"⟩,
  ⟨0x1F682, "", "STEAM LOCOMOTIVE;RAILWAY CAR;HIGH-SPEED TRAIN;HIGH-SPEED TRAIN WITH BULLET NOSE"⟩,
  ⟨0x1F686, "", "TRAIN;METRO;LIGHT RAIL;STATION;TRAM;TRAM CAR;BUS;ONCOMING BUS;TROLLEYBUS"⟩,
  ⟨0x1F68F, "", "BUS STOP;MINIBUS;AMBULANCE;FIRE ENGINE;POLICE CAR;ONCOMING POLICE CAR;TAXI"⟩,
  ⟨0x1F696, "", "ONCOMING TAXI;AUTOMOBILE;ONCOMING AUTOMOBILE;RECREATIONAL VEHICLE;DELIVERY TRUCK"⟩,
  ⟨0x1F69B, "", "ARTICULATED LORRY;TRACTOR;MONORAIL;MOUNTAIN RAILWAY;SUSPENSION RAILWAY"⟩,
  ⟨0x1F6A0, "", "MOUNTAIN CABLEWAY;AERIAL TRAMWAY;SHIP;ROWBOAT;SPEEDBOAT;HORIZONTAL TRAFFIC LIGHT"⟩,
  ⟨0x1F6A6, "", "VERTICAL TRAFFIC LIGHT;CONSTRUCTION SIGN;POLICE CARS REVOLVING LIGHT"⟩,
  ⟨0x1F6A9, "", "TRIANGULAR FLAG ON POST;DOOR;NO ENTRY SIGN;SMOKING SYMBOL;NO SMOKING SYMBOL"⟩,
  ⟨0x1F6AE, "", "PUT LITTER IN ITS PLACE SYMBOL;DO NOT LITTER SYMBOL;POTABLE WATER SYMBOL"⟩,
  ⟨0x1F6B1, "", "NON-POTABLE WATER SYMBOL;BICYCLE;NO BICYCLES;BICYCLIST;MOUNTAIN BICYCLIST"⟩,
  ⟨0x1F6B6, "", "PEDESTRIAN;NO PEDESTRIANS;CHILDREN CROSSING;MENS SYMBOL;WOMENS SYMBOL"⟩,
  ⟨0x1F6BB, "", "RESTROOM;BABY SYMBOL;TOILET;WATER CLOSET;SHOWER;BATH;BATHTUB;PASSPORT CONTROL"⟩,
  ⟨0x1F6C3, "", "CUSTOMS;BAGGAGE CLAIM;LEFT LUGGAGE;TRIANGLE WITH ROUNDED CORNERS;PROHIBITED SIGN"⟩,
  ⟨0x1F6C8, "", "CIRCLED INFORMATION SOURCE;BOYS SYMBOL;GIRLS SYMBOL;COUCH AND LAMP"⟩,
  ⟨0x1F6CC, "", "SLEEPING ACCOMMODATION;SHOPPING BAGS;BELLHOP BELL;BED;PLACE OF WORSHIP"⟩,
  ⟨0x1F6D1, "", "OCTAGONAL SIGN;SHOPPING TROLLEY;STUPA;PAGODA;HINDU TEMPLE;HUT;ELEVATOR"⟩,
  ⟨0x1F6DD, "", "PLAYGROUND SLIDE;WHEEL"⟩,
  ⟨0x1F6DF, "", "RING BUOY;HAMMER AND WRENCH;SHIELD;OIL DRUM;MOTORWAY;RAILWAY TRACK;MOTOR BOAT"⟩,
  ⟨0x1F6E6, "UP-POINTING ", "MILITARY AIRPLANE;AIRPLANE;SMALL AIRPLANE"⟩,
  ⟨0x1F6E9, "", "SMALL AIRPLANE;NORTHEAST-POINTING AIRPLANE;AIRPLANE DEPARTURE;AIRPLANE ARRIVING"⟩,
  ⟨0x1F6F0, "", "SATELLITE"⟩,
  ⟨0x1F6F1, "", "ONCOMING FIRE ENGINE;DIESEL LOCOMOTIVE;PASSENGER SHIP;SCOOTER;MOTOR SCOOTER"⟩,
  ⟨0x1F6F6, "", "CANOE;SLED;FLYING SAUCER;SKATEBOARD;AUTO RICKSHAW;PICKUP TRUCK;ROLLER SKATE"⟩]

/-- Shapes in colours. -/
def colourNames : List NameRun := [
  ⟨0x1F780, "", "BLACK LEFT-POINTING ISOSCELES RIGHT TRIANGLE"⟩,
  ⟨0x1F781, "", "BLACK UP-POINTING ISOSCELES RIGHT TRIANGLE"⟩,
  ⟨0x1F782, "", "BLACK RIGHT-POINTING ISOSCELES RIGHT TRIANGLE"⟩,
  ⟨0x1F783, "", "BLACK DOWN-POINTING ISOSCELES RIGHT TRIANGLE"⟩,
  ⟨0x1F784, "", "BLACK SLIGHTLY SMALL CIRCLE;MEDIUM BOLD WHITE CIRCLE"⟩,
  ⟨0x1F786, "", "BOLD WHITE CIRCLE;HEAVY WHITE CIRCLE;VERY HEAVY WHITE CIRCLE"⟩,
  ⟨0x1F789, "", "EXTREMELY HEAVY WHITE CIRCLE;WHITE CIRCLE CONTAINING BLACK SMALL CIRCLE"⟩,
  ⟨0x1F78B, "", "ROUND TARGET;BLACK TINY SQUARE;BLACK SLIGHTLY SMALL SQUARE;LIGHT WHITE SQUARE"⟩,
  ⟨0x1F78F, "", "MEDIUM WHITE SQUARE;BOLD WHITE SQUARE;HEAVY WHITE SQUARE;VERY HEAVY WHITE SQUARE"⟩,
  ⟨0x1F793, "", "EXTREMELY HEAVY WHITE SQUARE;WHITE SQUARE CONTAINING BLACK VERY SMALL SQUARE"⟩,
  ⟨0x1F795, "", "WHITE SQUARE CONTAINING BLACK MEDIUM SQUARE;SQUARE TARGET"⟩,
  ⟨0x1F797, "BLACK ", "TINY DIAMOND;VERY SMALL DIAMOND;MEDIUM SMALL DIAMOND"⟩,
  ⟨0x1F79A, "WHITE DIAMOND CONTAINING BLACK ", "VERY SMALL DIAMOND;MEDIUM DIAMOND"⟩,
  ⟨0x1F79C, "", "DIAMOND TARGET;BLACK TINY LOZENGE;BLACK VERY SMALL LOZENGE"⟩,
  ⟨0x1F79F, "", "BLACK MEDIUM SMALL LOZENGE;WHITE LOZENGE CONTAINING BLACK SMALL LOZENGE"⟩,
  ⟨0x1F7A1, "", "THIN GREEK CROSS;LIGHT GREEK CROSS;MEDIUM GREEK CROSS;BOLD GREEK CROSS"⟩,
  ⟨0x1F7A5, "", "VERY BOLD GREEK CROSS;VERY HEAVY GREEK CROSS;EXTREMELY HEAVY GREEK CROSS"⟩,
  ⟨0x1F7A8, "", "THIN SALTIRE;LIGHT SALTIRE;MEDIUM SALTIRE;BOLD SALTIRE;HEAVY SALTIRE"⟩,
  ⟨0x1F7AD, "", "VERY HEAVY SALTIRE;EXTREMELY HEAVY SALTIRE;LIGHT FIVE SPOKED ASTERISK"⟩,
  ⟨0x1F7B0, "", "MEDIUM FIVE SPOKED ASTERISK;BOLD FIVE SPOKED ASTERISK;HEAVY FIVE SPOKED ASTERISK"⟩,
  ⟨0x1F7B3, "", "VERY HEAVY FIVE SPOKED ASTERISK;EXTREMELY HEAVY FIVE SPOKED ASTERISK"⟩,
  ⟨0x1F7B5, "", "LIGHT SIX SPOKED ASTERISK;MEDIUM SIX SPOKED ASTERISK;BOLD SIX SPOKED ASTERISK"⟩,
  ⟨0x1F7B8, "", "HEAVY SIX SPOKED ASTERISK;VERY HEAVY SIX SPOKED ASTERISK"⟩,
  ⟨0x1F7BA, "", "EXTREMELY HEAVY SIX SPOKED ASTERISK;LIGHT EIGHT SPOKED ASTERISK"⟩,
  ⟨0x1F7BC, "", "MEDIUM EIGHT SPOKED ASTERISK;BOLD EIGHT SPOKED ASTERISK"⟩,
  ⟨0x1F7BE, "", "HEAVY EIGHT SPOKED ASTERISK;VERY HEAVY EIGHT SPOKED ASTERISK"⟩,
  ⟨0x1F7C0, "", "LIGHT THREE POINTED BLACK STAR;MEDIUM THREE POINTED BLACK STAR"⟩,
  ⟨0x1F7C2, "", "THREE POINTED BLACK STAR;MEDIUM THREE POINTED PINWHEEL STAR"⟩,
  ⟨0x1F7C4, "", "LIGHT FOUR POINTED BLACK STAR;MEDIUM FOUR POINTED BLACK STAR"⟩,
  ⟨0x1F7C6, "", "FOUR POINTED BLACK STAR;MEDIUM FOUR POINTED PINWHEEL STAR"⟩,
  ⟨0x1F7C8, "", "REVERSE LIGHT FOUR POINTED PINWHEEL STAR;LIGHT FIVE POINTED BLACK STAR"⟩,
  ⟨0x1F7CA, "", "HEAVY FIVE POINTED BLACK STAR;MEDIUM SIX POINTED BLACK STAR"⟩,
  ⟨0x1F7CC, "", "HEAVY SIX POINTED BLACK STAR;SIX POINTED PINWHEEL STAR"⟩,
  ⟨0x1F7CE, "", "MEDIUM EIGHT POINTED BLACK STAR;HEAVY EIGHT POINTED BLACK STAR"⟩,
  ⟨0x1F7D0, "", "VERY HEAVY EIGHT POINTED BLACK STAR;HEAVY EIGHT POINTED PINWHEEL STAR"⟩,
  ⟨0x1F7D2, "", "LIGHT TWELVE POINTED BLACK STAR;HEAVY TWELVE POINTED BLACK STAR"⟩,
  ⟨0x1F7D4, "", "HEAVY TWELVE POINTED PINWHEEL STAR;CIRCLED TRIANGLE"⟩,
  ⟨0x1F7D6, "", "NEGATIVE CIRCLED TRIANGLE;CIRCLED SQUARE;NEGATIVE CIRCLED SQUARE"⟩,
  ⟨0x1F7E0, "LARGE ", "ORANGE CIRCLE;YELLOW CIRCLE"⟩,
  ⟨0x1F7E2, "LARGE ", "GREEN CIRCLE;PURPLE CIRCLE;BROWN CIRCLE;RED SQUARE;BLUE SQUARE"⟩,
  ⟨0x1F7E7, "LARGE ", "ORANGE SQUARE;YELLOW SQUARE;GREEN SQUARE;PURPLE SQUARE;BROWN SQUARE"⟩,
  ⟨0x1F7F0, "", "HEAVY EQUALS SIGN"⟩]

/-- Further faces, gestures, animals and things. -/
def furtherNames : List NameRun := [
  ⟨0x1F900, "CIRCLED CROSS FORMEE WITH ", "FOUR DOTS;TWO DOTS"⟩,
  ⟨0x1F902, "", "CIRCLED CROSS FORMEE;LEFT HALF CIRCLE WITH FOUR DOTS"⟩,
  ⟨0x1F904, "LEFT HALF ", "CIRCLE WITH THREE DOTS;CIRCLE WITH TWO DOTS;CIRCLE WITH DOT;CIRCLE"⟩,
  ⟨0x1F908, "DOWNWARD FACING ", "HOOK;NOTCHED HOOK;HOOK WITH DOT"⟩,
  ⟨0x1F90B, "", "DOWNWARD FACING NOTCHED HOOK WITH DOT;PINCHED FINGERS;WHITE HEART;BROWN HEART"⟩,
  ⟨0x1F90F, "", "PINCHING HAND;ZIPPER-MOUTH FACE;MONEY-MOUTH FACE;FACE WITH THERMOMETER;NERD FACE"⟩,
  ⟨0x1F914, "", "THINKING FACE;FACE WITH HEAD-BANDAGE;ROBOT FACE;HUGGING FACE;SIGN OF THE HORNS"⟩,
  ⟨0x1F919, "", "CALL ME HAND;RAISED BACK OF HAND;LEFT-FACING FIST;RIGHT-FACING FIST"⟩,
  ⟨0x1F91D, "", "HANDSHAKE;HAND WITH INDEX AND MIDDLE FINGERS CROSSED;I LOVE YOU HAND SIGN"⟩,
  ⟨0x1F920, "", "FACE WITH COWBOY HAT;CLOWN FACE;NAUSEATED FACE;ROLLING ON THE FLOOR LAUGHING"⟩,
  ⟨0x1F924, "", "DROOLING FACE;LYING FACE;FACE PALM;SNEEZING FACE;FACE WITH ONE EYEBROW RAISED"⟩,
  ⟨0x1F929, "GRINNING FACE WITH ", "STAR EYES;ONE LARGE AND ONE SMALL EYE"⟩,
  ⟨0x1F92B, "", "FACE WITH FINGER COVERING CLOSED LIPS;SERIOUS FACE WITH SYMBOLS COVERING MOUTH"⟩,
  ⟨0x1F92D, "", "SMILING FACE WITH SMILING EYES AND HAND COVERING MOUTH"⟩,
  ⟨0x1F92E, "", "FACE WITH OPEN MOUTH VOMITING;SHOCKED FACE WITH EXPLODING HEAD"⟩,
  ⟨0x1F930, "", "PREGNANT WOMAN;BREAST-FEEDING;PALMS UP TOGETHER;SELFIE;PRINCE;MAN IN TUXEDO"⟩,
  ⟨0x1F936, "", "MOTHER CHRISTMAS;SHRUG;PERSON DOING CARTWHEEL;JUGGLING;FENCER;MODERN PENTATHLON"⟩,
  ⟨0x1F93C, "", "WRESTLERS;WATER POLO;HANDBALL;DIVING MASK;WILTED FLOWER;DRUM WITH DRUMSTICKS"⟩,
  ⟨0x1F942, "", "CLINKING GLASSES;TUMBLER GLASS;SPOON;GOAL NET;RIFLE;FIRST PLACE MEDAL"⟩,
  ⟨0x1F948, "", "SECOND PLACE MEDAL;THIRD PLACE MEDAL;BOXING GLOVE;MARTIAL ARTS UNIFORM"⟩,
  ⟨0x1F94C, "", "CURLING STONE;LACROSSE STICK AND BALL;SOFTBALL;FLYING DISC;CROISSANT;AVOCADO"⟩,
  ⟨0x1F952, "", "CUCUMBER;BACON;POTATO;CARROT;BAGUETTE BREAD;GREEN SALAD;SHALLOW PAN OF FOOD"⟩,
  ⟨0x1F959, "", "STUFFED FLATBREAD;EGG;GLASS OF MILK;PEANUTS;KIWIFRUIT;PANCAKES"⟩,
  ⟨0x1F95F, "", "DUMPLING;FORTUNE COOKIE;TAKEOUT BOX;CHOPSTICKS;BOWL WITH SPOON;CUP WITH STRAW"⟩,
  ⟨0x1F965, "", "COCONUT;BROCCOLI;PIE;PRETZEL;CUT OF MEAT;SANDWICH;CANNED FOOD;LEAFY GREEN"⟩,
  ⟨0x1F96D, "", "MANGO;MOON CAKE;BAGEL;SMILING FACE WITH SMILING EYES AND THREE HEARTS"⟩,
  ⟨0x1F971, "", "YAWNING FACE;SMILING FACE WITH TEAR"⟩,
  ⟨0x1F973, "FACE WITH ", "PARTY HORN AND PARTY HAT;UNEVEN EYES AND WAVY MOUTH"⟩,
  ⟨0x1F975, "", "OVERHEATED FACE;FREEZING FACE;NINJA;DISGUISED FACE;FACE HOLDING BACK TEARS"⟩,
  ⟨0x1F97A, "", "FACE WITH PLEADING EYES;SARI;LAB COAT;GOGGLES;HIKING BOOT"⟩,
  ⟨0x1F97F, "", "FLAT SHOE;CRAB;LION FACE;SCORPION;TURKEY;UNICORN FACE;EAGLE;DUCK;BAT;SHARK"⟩,
  ⟨0x1F989, "", "OWL;FOX FACE;BUTTERFLY;DEER;GORILLA;LIZARD;RHINOCEROS;SHRIMP;SQUID;GIRAFFE FACE"⟩,
  ⟨0x1F993, "", "ZEBRA FACE;HEDGEHOG;SAUROPOD;T-REX;CRICKET;KANGAROO;LLAMA;PEACOCK;HIPPOPOTAMUS"⟩,
  ⟨0x1F99C, "", "PARROT;RACCOON;LOBSTER;MOSQUITO;MICROBE;BADGER;SWAN;MAMMOTH;DODO;SLOTH"⟩,
  ⟨0x1F9A6, "", "OTTER;ORANGUTAN;SKUNK;FLAMINGO;OYSTER;BEAVER;BISON;SEAL;GUIDE DOG;PROBING CANE"⟩,
  ⟨0x1F9B0, "EMOJI COMPONENT ", "RED HAIR;CURLY HAIR;BALD;WHITE HAIR"⟩,
  ⟨0x1F9B4, "", "BONE;LEG;FOOT;TOOTH;SUPERHERO;SUPERVILLAIN;SAFETY VEST;EAR WITH HEARING AID"⟩,
  ⟨0x1F9BC, "", "MOTORIZED WHEELCHAIR;MANUAL WHEELCHAIR;MECHANICAL ARM;MECHANICAL LEG"⟩,
  ⟨0x1F9C0, "", "CHEESE WEDGE;CUPCAKE;SALT SHAKER;BEVERAGE BOX;GARLIC;ONION;FALAFEL;WAFFLE"⟩,
  ⟨0x1F9C8, "", "BUTTER;MATE DRINK;ICE CUBE;BUBBLE TEA;TROLL;STANDING PERSON;KNEELING PERSON"⟩,
  ⟨0x1F9CF, "", "DEAF PERSON;FACE WITH MONOCLE;ADULT;CHILD;OLDER ADULT;BEARDED PERSON"⟩,
  ⟨0x1F9D5, "PERSON ", "WITH HEADSCARF;IN STEAMY ROOM;CLIMBING;IN LOTUS POSITION"⟩,
  ⟨0x1F9D9, "", "MAGE;FAIRY;VAMPIRE;MERPERSON;ELF;GENIE;ZOMBIE;BRAIN;ORANGE HEART;BILLED CAP"⟩,
  ⟨0x1F9E3, "", "SCARF;GLOVES;COAT;SOCKS;RED GIFT ENVELOPE;FIRECRACKER;JIGSAW PUZZLE PIECE"⟩,
  ⟨0x1F9EA, "", "TEST TUBE;PETRI DISH;DNA DOUBLE HELIX;COMPASS;ABACUS;FIRE EXTINGUISHER;TOOLBOX"⟩,
  ⟨0x1F9F1, "", "BRICK;MAGNET;LUGGAGE;LOTION BOTTLE;SPOOL OF THREAD;BALL OF YARN;SAFETY PIN"⟩,
  ⟨0x1F9F8, "", "TEDDY BEAR;BROOM;BASKET;ROLL OF PAPER;BAR OF SOAP;SPONGE;RECEIPT;NAZAR AMULET"⟩,
  ⟨0x1FA00, "NEUTRAL CHESS ", "KING;QUEEN;ROOK;BISHOP;KNIGHT"⟩,
  ⟨0x1FA05, "", "NEUTRAL CHESS PAWN;WHITE CHESS KNIGHT ROTATED FORTY-FIVE DEGREES"⟩,
  ⟨0x1FA07, "", "BLACK CHESS KNIGHT ROTATED FORTY-FIVE DEGREES"⟩,
  ⟨0x1FA08, "", "NEUTRAL CHESS KNIGHT ROTATED FORTY-FIVE DEGREES"⟩,
  ⟨0x1FA09, "WHITE CHESS ", "KING ROTATED NINETY DEGREES;QUEEN ROTATED NINETY DEGREES"⟩,
  ⟨0x1FA0B, "WHITE CHESS ", "ROOK ROTATED NINETY DEGREES;BISHOP ROTATED NINETY DEGREES"⟩,
  ⟨0x1FA0D, "WHITE CHESS ", "KNIGHT ROTATED NINETY DEGREES;PAWN ROTATED NINETY DEGREES"⟩,
  ⟨0x1FA0F, "BLACK CHESS ", "KING ROTATED NINETY DEGREES;QUEEN ROTATED NINETY DEGREES"⟩,
  ⟨0x1FA11, "BLACK CHESS ", "ROOK ROTATED NINETY DEGREES;BISHOP ROTATED NINETY DEGREES"⟩,
  ⟨0x1FA13, "BLACK CHESS ", "KNIGHT ROTATED NINETY DEGREES;PAWN ROTATED NINETY DEGREES"⟩,
  ⟨0x1FA15, "NEUTRAL CHESS ", "KING ROTATED NINETY DEGREES;QUEEN ROTATED NINETY DEGREES"⟩,
  ⟨0x1FA17, "NEUTRAL CHESS ", "ROOK ROTATED NINETY DEGREES;BISHOP ROTATED NINETY DEGREES"⟩,
  ⟨0x1FA19, "NEUTRAL CHESS ", "KNIGHT ROTATED NINETY DEGREES;PAWN ROTATED NINETY DEGREES"⟩,
  ⟨0x1FA1B, "", "WHITE CHESS KNIGHT ROTATED ONE HUNDRED THIRTY-FIVE DEGREES"⟩,
  ⟨0x1FA1C, "", "BLACK CHESS KNIGHT ROTATED ONE HUNDRED THIRTY-FIVE DEGREES"⟩,
  ⟨0x1FA1D, "", "NEUTRAL CHESS KNIGHT ROTATED ONE HUNDRED THIRTY-FIVE DEGREES"⟩,
  ⟨0x1FA1E, "WHITE CHESS TURNED ", "KING;QUEEN;ROOK;BISHOP;KNIGHT;PAWN"⟩,
  ⟨0x1FA24, "BLACK CHESS TURNED ", "KING;QUEEN;ROOK;BISHOP;KNIGHT;PAWN"⟩,
  ⟨0x1FA2A, "NEUTRAL CHESS TURNED ", "KING;QUEEN;ROOK;BISHOP;KNIGHT;PAWN"⟩,
  ⟨0x1FA30, "", "WHITE CHESS KNIGHT ROTATED TWO HUNDRED TWENTY-FIVE DEGREES"⟩,
  ⟨0x1FA31, "", "BLACK CHESS KNIGHT ROTATED TWO HUNDRED TWENTY-FIVE DEGREES"⟩,
  ⟨0x1FA32, "", "NEUTRAL CHESS KNIGHT ROTATED TWO HUNDRED TWENTY-FIVE DEGREES"⟩,
  ⟨0x1FA33, "", "WHITE CHESS KING ROTATED TWO HUNDRED SEVENTY DEGREES"⟩,
  ⟨0x1FA34, "", "WHITE CHESS QUEEN ROTATED TWO HUNDRED SEVENTY DEGREES"⟩,
  ⟨0x1FA35, "", "WHITE CHESS ROOK ROTATED TWO HUNDRED SEVENTY DEGREES"⟩,
  ⟨0x1FA36, "", "WHITE CHESS BISHOP ROTATED TWO HUNDRED SEVENTY DEGREES"⟩,
  ⟨0x1FA37, "", "WHITE CHESS KNIGHT ROTATED TWO HUNDRED SEVENTY DEGREES"⟩,
  ⟨0x1FA38, "", "WHITE CHESS PAWN ROTATED TWO HUNDRED SEVENTY DEGREES"⟩,
  ⟨0x1FA39, "", "BLACK CHESS KING ROTATED TWO HUNDRED SEVENTY DEGREES"⟩,
  ⟨0x1FA3A, "", "BLACK CHESS QUEEN ROTATED TWO HUNDRED SEVENTY DEGREES"⟩,
  ⟨0x1FA3B, "", "BLACK CHESS ROOK ROTATED TWO HUNDRED SEVENTY DEGREES"⟩,
  ⟨0x1FA3C, "", "BLACK CHESS BISHOP ROTATED TWO HUNDRED SEVENTY DEGREES"⟩,
  ⟨0x1FA3D, "", "BLACK CHESS KNIGHT ROTATED TWO HUNDRED SEVENTY DEGREES"⟩,
  ⟨0x1FA3E, "", "BLACK CHESS PAWN ROTATED TWO HUNDRED SEVENTY DEGREES"⟩,
  ⟨0x1FA3F, "", "NEUTRAL CHESS KING ROTATED TWO HUNDRED SEVENTY DEGREES"⟩,
  ⟨0x1FA40, "", "NEUTRAL CHESS QUEEN ROTATED TWO HUNDRED SEVENTY DEGREES"⟩,
  ⟨0x1FA41, "", "NEUTRAL CHESS ROOK ROTATED TWO HUNDRED SEVENTY DEGREES"⟩,
  ⟨0x1FA42, "", "NEUTRAL CHESS BISHOP ROTATED TWO HUNDRED SEVENTY DEGREES"⟩,
  ⟨0x1FA43, "", "NEUTRAL CHESS KNIGHT ROTATED TWO HUNDRED SEVENTY DEGREES"⟩,
  ⟨0x1FA44, "", "NEUTRAL CHESS PAWN ROTATED TWO HUNDRED SEVENTY DEGREES"⟩,
  ⟨0x1FA45, "", "WHITE CHESS KNIGHT ROTATED THREE HUNDRED FIFTEEN DEGREES"⟩,
  ⟨0x1FA46, "", "BLACK CHESS KNIGHT ROTATED THREE HUNDRED FIFTEEN DEGREES"⟩,
  ⟨0x1FA47, "", "NEUTRAL CHESS KNIGHT ROTATED THREE HUNDRED FIFTEEN DEGREES"⟩,
  ⟨0x1FA48, "", "WHITE CHESS EQUIHOPPER;BLACK CHESS EQUIHOPPER"⟩,
  ⟨0x1FA4A, "", "NEUTRAL CHESS EQUIHOPPER;WHITE CHESS EQUIHOPPER ROTATED NINETY DEGREES"⟩,
  ⟨0x1FA4C, "", "BLACK CHESS EQUIHOPPER ROTATED NINETY DEGREES"⟩,
  ⟨0x1FA4D, "", "NEUTRAL CHESS EQUIHOPPER ROTATED NINETY DEGREES"⟩,
  ⟨0x1FA4E, "WHITE CHESS ", "KNIGHT-QUEEN;KNIGHT-ROOK;KNIGHT-BISHOP"⟩,
  ⟨0x1FA51, "BLACK CHESS ", "KNIGHT-QUEEN;KNIGHT-ROOK;KNIGHT-BISHOP"⟩,
  ⟨0x1FA60, "XIANGQI RED ", "GENERAL;MANDARIN;ELEPHANT;HORSE;CHARIOT;CANNON;SOLDIER"⟩,
  ⟨0x1FA67, "XIANGQI BLACK ", "GENERAL;MANDARIN;ELEPHANT;HORSE;CHARIOT;CANNON;SOLDIER"⟩,
  ⟨0x1FA70, "", "BALLET SHOES;ONE-PIECE SWIMSUIT;BRIEFS;SHORTS;THONG SANDAL"⟩,
  ⟨0x1FA78, "", "DROP OF BLOOD;ADHESIVE BANDAGE;STETHOSCOPE;X-RAY;CRUTCH"⟩,
  ⟨0x1FA80, "", "YO-YO;KITE;PARACHUTE;BOOMERANG;MAGIC WAND;PINATA;NESTING DOLLS"⟩,
  ⟨0x1FA90, "", "RINGED PLANET;CHAIR;RAZOR;AXE;DIYA LAMP"⟩,
  ⟨0x1FA95, "", "BANJO;MILITARY HELMET;ACCORDION;LONG DRUM;COIN;CARPENTRY SAW;SCREWDRIVER;LADDER"⟩,
  ⟨0x1FA9D, "", "HOOK;MIRROR;WINDOW;PLUNGER;SEWING NEEDLE;KNOT;BUCKET;MOUSE TRAP;TOOTHBRUSH"⟩,
  ⟨0x1FAA6, "", "HEADSTONE;PLACARD;ROCK;MIRROR BALL;IDENTIFICATION CARD;LOW BATTERY;HAMSA"⟩,
  ⟨0x1FAB0, "", "FLY;WORM"⟩,
  ⟨0x1FAB2, "", "BEETLE;COCKROACH;POTTED PLANT;WOOD;FEATHER;LOTUS;CORAL;EMPTY NEST;NEST WITH EGGS"⟩,
  ⟨0x1FAC0, "", "ANATOMICAL HEART"⟩,
  ⟨0x1FAC1, "", "LUNGS;PEOPLE HUGGING;PREGNANT MAN;PREGNANT PERSON;PERSON WITH CROWN"⟩,
  ⟨0x1FAD0, "", "BLUEBERRIES"⟩,
  ⟨0x1FAD1, "", "BELL PEPPER;OLIVE;FLATBREAD;TAMALE;FONDUE;TEAPOT;POURING LIQUID;BEANS;JAR"⟩,
  ⟨0x1FAE0, "", "MELTING FACE"⟩,
  ⟨0x1FAE1, "", "SALUTING FACE;FACE WITH OPEN EYES AND HAND OVER MOUTH;FACE WITH PEEKING EYE"⟩,
  ⟨0x1FAE4, "", "FACE WITH DIAGONAL MOUTH;DOTTED LINE FACE;BITING LIP;BUBBLES"⟩,
  ⟨0x1FAF0, "", "HAND WITH INDEX FINGER AND THUMB CROSSED;RIGHTWARDS HAND;LEFTWARDS HAND"⟩,
  ⟨0x1FAF3, "", "PALM DOWN HAND;PALM UP HAND;INDEX POINTING AT THE VIEWER;HEART HANDS"⟩]

end TablePipeline.Text
