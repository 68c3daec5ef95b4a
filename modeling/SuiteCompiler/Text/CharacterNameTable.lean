/-
  SuiteCompiler/Text/CharacterNameTable.lean
  ==========================================
  The names of characters in Unicode 14, with the further names that some characters
  have, in the order of the alphabet.  Not here are the names that follow a rule, of
  the unified ideographs and of the syllables of Hangul.

  A name is listed as a mark and the end of the name: the mark tells how many
  characters the beginning shares with the name before it.
-/

namespace SuiteCompiler.Text

/-- The marks: each stands for the number of marks before it. -/
def shareMarks : List Char := "abcdefghijklmnopqrstuvwxyz!#$%&()*+,./:;<=>?@[]^_|~".toList

/-- The lines of marks and ends of names. -/
def nameLines : List String :=
  ["aABACUSbC CURRENTcCORDIONeUNT OFcKdNOWLEDGEcTIVATE ARABIC FORM SHAPINGjSYMMETRIC SWAPPING",
   "cUTE ACCENThNGLEbDDRESSED TO THE SUBJECTcHESIVE BANDAGEcI SHAKTIcLAM ALIF LENGTHENER",
   "gCAPITAL LETTER ALIFvBAwHEvCHIvDAALIwHAvEvFAvGAwBEvHAvIvJIIMvKAFwHAwPOvLAAMvMIIMvNHAwUNwYAvO",
   "vPEvQAAFvRAvSHAwINNYIIYHEvTUvUvVAvWAWvYAwHEvZALhONSONANT MODIFIERgDIGIT EIGHTmFIVEnOURmNINE",
   "mONEmSEVENnIXmTHREEnWOmZEROgGEMINATE CONSONANT MODIFIERnION MARKgHAMZA",
   "gINITIAL EXCLAMATION MARKoQUESTION MARKgNASALIZATION MARKhUKTAgSMALL LETTER ALIFtBAuHEtCHI",
   "tDAALIuHAtEtFAtGAuBEtHAtItJIIMtKAFuHAuPOtLAAMtMIIMtNHAuUNuYAtOtPEtQAAFtRAtSHAuINNYIIYHEtTUtU",
   "tVAtWAWtYAuHEtZALgVOWEL LENGTHENERcMETOSdISSION TICKETScULTbEGEAN CHECK MARK",
   "hDRY MEASURE FIRST SUBUNIThLIQUID MEASURE FIRST SUBUNIThMEASURE SECOND SUBUNITpTHIRD SUBUNIT",
   "hNUMBER EIGHTt HUNDREDuTHOUSANDtYu THOUSANDoFIFTYt THOUSANDqVEs HUNDREDtTHOUSANDpORTY",
   "t THOUSANDqURs HUNDREDtTHOUSANDoNINEs HUNDREDtTHOUSANDsTYu THOUSANDoONEr HUNDREDsTHOUSAND",
   "oSEVENt HUNDREDuTHOUSANDtTYv THOUSANDpIXr HUNDREDsTHOUSANDrTYt THOUSANDoTENr THOUSANDpHIRTY",
   "u THOUSANDqREEt HUNDREDuTHOUSANDpWENTYu THOUSANDqOr HUNDREDsTHOUSANDhWEIGHT BASE UNIT",
   "oFIRST SUBUNITpOURTH SUBUNIToSECOND SUBUNIToTHIRD SUBUNITiORD SEPARATOR DOTwLINEcRIAL TRAMWAY",
   "bFGHANI SIGNbHOM CONSONANT SIGN MEDIAL LA$IGATING RA#RAfDIGIT EIGHTlFIVEmOURlNINElONElSEVENmIX",
   "lTHREEmWOlZEROfLETTER AnLTERNATE BAwGAwTAmBAnHAmCAnHAmDAnDAoHAnHAmGAnHAmHAmJAnHAmKAnHAmLAnLA",
   "mMAmNAnGAnNAnYAmPAnHAmRAmSAmTAnHAnTAoHAfNUMBER TENnWENTYfSIGN KILLERkRULAIkSECTION",
   "lMALL SECTIONgYMBOL VIfVOWEL SIGN ArArIrMrWqEqIrIqOqUrUbIRPLANEi ARRIVINGjDEPARTURE",
   "bKTIESELSKABbLARM CLOCKcCHEMICAL SYMBOL FOR AIRxLEMBICyKALI$-2yUMxMALGAMxNTIMONY ORExQUA REGIA",
   ")-2#VITAE)-2!FORTISxRSENICxSHESxURIPIGMENTwBATH OF MARY&VAPOURSxISMUTH ORExLACK SULFURxORAX#-2",
   "$3xRICKwCADUCEUSyLXyPUT MORTUUMxINNABARxOPPER ANTIMONIATE%ORExROCUS OF COPPER:-2)IRONyUCIBLE",
   "&-2(3(4(5wDAY-NIGHTxISSOLVE&-2zTILLwEARTHwFIREwGOLDxUMwHALF DRAM#OUNCExORSE DUNGyURwIRON ORE",
   "&-2!-COPPER OREwLEAD ORExODESTONEwMARCASITExERCURY SUBLIMATE;-2<3xONTHwNIGHTyTREwOIL",
   "wPHILOSOPHERS SULFURxOT ASHESyWDER$ED BRICKxRECIPITATExURIFYyTREFACTIONwQUICK LIMEzNTESSENCE",
   "wREALGAR%-2yGULUS% OF ANTIMONY=-2*IRON%-2&3&4yTORTxOCK SALT(-2wSAL-AMMONIACzT! OF ANTIMONY",
   "&COPPER ANTIMONIATExCEPTER OF JOVExILVERxOAPxPIRITxTARRED TRIDENTyRATUM SUPER STRATUM?-2",
   "xUBLIMATE OF ANTIMONY,COPPER,SALT OF ANTIMONY?COPPER&IONyLFURwTARTAR$-2xIN OREzCTURExRIDENT",
   "xUTTYwURINEwVERDIGRISxINEGAR% OF ANTIMONY%-2&3yTRIOL%-2wWATERyXcEF SYMBOLdMBICdRTcIEN MONSTER",
   "cL AROUND-PROFILEeEQUAL TOcMdOST EQUAL OR EQUAL TOnTOp WITH CIRCUMFLEX ACCENT",
   "cTERNATE ONE-WAY LEFT WAY TRAFFICiIVE KEY SYMBOLbMALGAMATION OR COPRODUCTcBULANCE",
   "cERICAN FOOTBALLcPERSANDdHORAbNATOLIAN HIEROGLYPH A001y2y3y4y5y6y7y8y9x10zAy1y2y3y4y5y6y7y8y9",
   "x20y1y2y3y4y5y6zAy7y8y9x30y1y2y3y4y5y6y7y8y9zAx40y1zAy2y3y4y5zAy6zAzBy7y8y9x50y1y2y3y4y5y6y7y8",
   "y9x60y1y2y3y4y5y6zAzBzCy7y8y9x70y1y2y3y4y5y6y7y8y9x80y1y2y3y4y5y6y7y8y9x90y1y2y3y4y5y6y7zAy8zA",
   "y9w100zAy1zAy2zAy3y4zAzBzCy5zAzBy6y7zAzBzCy8y9x10zAzBy1y2y3y4y5zAy6y7y8y9x20y1y2y3y4y5zAy6y7y8",
   "y9x30y1y2y3y4y5zAy6y7y8y9x40y1y2y3y4y5y6y7y8y9x50y1y2y3y4y5y6y7y8y9x60y1y2y3y4y5y6y7y8y9x70y1",
   "y2y3y4y5y6y7y8y9x80y1y2y3y4y5y6y7y8y9x90y1y2y3y4y5y6y7y8y9w200y1y2zAzBy3y4y5y6y7zAy8y9zAx10y1",
   "y2y3y4y5zAy6zAy7y8y9x20y1y2y3y4y5y6y7zAy8y9x30y1y2y3y4y5y6y7y8y9x40y1y2y3y4y5y6y7y8y9x50y1y2y3",
   "y4y5y6y7y8y9x60y1y2y3y4y5y6y7zAy8y9x70y1y2y3y4y5y6y7y8y9x80y1y2y3y4y5y6y7y8y9zAx90y1y2y3y4zAy5",
   "y6y7y8y9zAw300y1y2y3y4y5y6y7y8y9zAx10y1y2y3y4y5y6y7y8y9x20y1y2y3y4y5y6y7y8y9zAx30y1y2AzBzCy3y4",
   "y5y6zAzBzCy7y8y9x40y1y2y3y4y5y6y7y8y9x50y1y2y3y4y5y6y7y8y9zAx60y1y2y3y4zAy5y6y7y8zAy9x70y1zAy2",
   "y3y4y5y6y7y8y9x80y1zAy2y3 RA OR RIzAy4y5y6zAy7y8y9x90y1y2y3 EIGHTy4y5y6y7y8y9w400y1y2y3y4y5y6",
   "y7y8y9x10 BEGIN LOGOGRAM MARKzA END LOGOGRAM MARKy1y2y3y4y5y6y7y8y9x20y1y2y3y4y5y6y7y8y9x30y1",
   "y2y3y4y5y6y7y8y9x40y1y2y3y4y5y6y7y8y9x50zAy1y2y3y4y5y6y7zAy8y9x60y1y2y3y4y5y6y7y8y9x70y1y2y3y4",
   "y5y6y7y8y9x80y1y2y3y4y5y6y7y8y9x90y1y2y3y4y5y6y7w501y2y3y4y5y6y7y8y9x10y1y2y3y4y5y6y7y8y9x20y1",
   "y2y3y4y5y6y7y8y9x30fMICAL HEARTcCHORcD WITH DOTcGER SYMBOLdLEf WITH S INSIDElUNDERBARdRY FACE",
   "dSTROM SIGNdUISHED FACEcKHcTdENNA WITH BARSdICLOCKWISE CLOSED CIRCLE ARROWpONTOUR INTEGRAL",
   "oDOWNWARDS AND UPWARDS OPEN CIRCLE ARROWSoGAPPED CIRCLE ARROWoINTEGRATIONoOPEN CIRCLE ARROW",
   "oTOP SEMICIRCLE ARROWpRIANGLE-HEADED BOTTOM U-SHAPED ARROW&LEFT U-SHAPED ARROW",
   "&OPEN CIRCLE ARROW&RIGHT U-SHAPED ARROW&TOP U-SHAPED ARROWbPCcL FUNCTIONAL SYMBOL ALPHA",
   "# UNDERBARwBACKSLASH BARwCIRCLE BACKSLASH%DIAERESIS%JOT%STAR(ILE%UNDERBARxOMMA BAR",
   "wDEL DIAERESIS!STILE!TILDEzTA STILE$UNDERBARxIAMOND UNDERBARxOWN CARET TILDE#SHOE STILE",
   "#TACK JOT)UNDERBAR!WARDS VANEwEPSILON UNDERBARwGREATER-THAN DIAERESISwI-BEAMxOTA! UNDERBAR",
   "wJOT DIAERESIS!UNDERBARwLEFT SHOE STILE!WARDS VANEwOMEGA# UNDERBARwQUAD! BACKSLASH#CIRCLE$OLON",
   "#DEL&TA$IAMOND%VIDE$OWN CARET(WARDS ARROW#EQUAL#GREATER-THAN#JOT#LEFTWARDS ARROW%SS-THAN",
   "#NOT EQUAL#QUESTION#RIGHTWARDS ARROW#SLASH#UP CARET%WARDS ARROWyOTE QUAD$UNDERBARwRHO",
   "xIGHTWARDS VANEwSEMICOLON UNDERBARxLASH BARxQUISH QUADxTAR DIAERESISyILE TILDEwTILDE DIAERESIS",
   "wUP CARET TILDEzSHOE JOTzTACK DIAERESIS&JOT&OVERBARyWARDS VANEwZILDEcOLLONdSTROPHE",
   "cPLICATION PROGRAM COMMANDdROACHES THE LIMITfXIMATELY BUT NOT ACTUALLY EQUAL TO",
   "oEQUAL OR EQUAL TOuTOw OR THE IMAGE OFbQUARIUSbRABIC BASELINE ROUND DOThCOMMAiURLY DAMMAsTAN",
   "nFATHAsTANnKASRAsTANhDAMMAm ISOLATED FORMnMEDIAL FORMnWITH DOTmTANp ISOLATED FORMjTE SEPARATOR",
   "iECIMAL SEPARATORiISPUTED END OF AYAHiOUBLE RIGHT ARROWHEAD ABOVE, WITH DOTnD MADDA",
   "hEMPTY CENTRE HIGH STOPuLOW STOPiND OF AYAHoTEXT MARKhFATHAm ISOLATED FORMnMEDIAL FORM",
   "nWITH DOT ABOVEsRINGsTWO DOTSmTANp ISOLATED FORMiIVE POINTED STARiOOTNOTE MARKERiULL STOP",
   "hHALF MADDA OVER MADDAjMZA ABOVEnBELOWhINVERTED DAMMAhKASRAm ISOLATED FORMnMEDIAL FORM",
   "nWITH DOT BELOWmTANp ISOLATED FORMhLARGE CIRCLE BELOWnROUND DOT ABOVExBELOW",
   "xINSIDE CIRCLE BELOWiEFT ARROWHEAD ABOVEwBELOWjTTER AEpFRICAN FEHwNOONwQAF",
   "z WITH THREE DOTS ABOVEpINr FINAL FORMsINITIAL FORMtSOLATED FORMsMEDIAL FORM",
   "sWITH THREE DOTS ABOVE+BELOW+POINTING DOWNWARDS ABOVEyWO DOTS ABOVE)VERTICALLY ABOVEpLEF",
   "s FINAL FORMtISOLATED FORMtMAKSURA! FINAL FORM#ISOLATED FORMtWASLAy FINAL FORMzISOLATED FORM",
   "uITH ATTACHED BOTTOM RIGHT KASRA~A AND DOT ABOVE~A AND LEFT RING*FATHA*KASRA*LEFT HAMZA",
   ":ROUND DOT*RIGHT HAMZA;ROUND DOT+OUND DOT ABOVE?BELOW*TOP RIGHT FATHA_ AND DOT ABOVE",
   "~ND LEFT RINGyDOT ABOVEyEXTENDED ARABIC-INDIC DIGIT THREE ABOVE~T TWO ABOVEyHAMZA ABOVE",
   ", FINAL FORM.ISOLATED FORM&BELOW, FINAL FORM.ISOLATED FORMyLEFT MIDDLE STROKEyMADDA ABOVE",
   ", FINAL FORM.ISOLATED FORMyRIGHT MIDDLE STROKE? AND DOT ABOVE_LEFT RINGyWAVY HAMZA ABOVE,BELOW",
   "oBEEHs FINAL FORMtINITIAL FORMuSOLATED FORMtMEDIAL FORMqHr FINAL FORMsINITIAL FORM",
   "tSOLATED FORMsMEDIAL FORMsWITH DOT BELOW AND THREE DOTS ABOVExHAMZA ABOVE",
   "xINVERTED SMALL V BELOWxSMALL MEEM ABOVE%V& BELOWxTHREE DOTS HORIZONTALLY BELOW",
   "+POINTING UPWARDS BELOW~ BELOW AND TWO DOTS ABOVEyWO DOTS BELOW AND DOT ABOVErEHt FINAL FORM",
   "uINITIAL FORMvSOLATED FORMuMEDIAL FORMoDADr FINAL FORMsINITIAL FORMtSOLATED FORMsMEDIAL FORM",
   "sWITH DOT BELOWqHALt FINAL FORMuISOLATED FORMqLr FINAL FORMsISOLATED FORMsWITH DOT BELOW",
   ") AND SMALL TAHxFOUR DOTS ABOVExINVERTED SMALL V BELOW)VxRINGxTHREE DOTS ABOVE DOWNWARDS+BELOW",
   "yWO DOTS VERTICALLY BELOW AND SMALL TAHpDAHALu FINAL FORMvISOLATED FORMrLs FINAL FORM",
   "tISOLATED FORMpOTLESS BEHwFEHwQAFpULr FINAL FORMsISOLATED FORMpYEHs FINAL FORMtINITIAL FORM",
   "uSOLATED FORMtMEDIAL FORMoEp FINAL FORMqINITIAL FORMrSOLATED FORMqMEDIAL FORMoFARSI YEH",
   "x FINAL FORMyINITIAL FORMzSOLATED FORMyMEDIAL FORMyWITH EXTENDED ARABIC-INDIC DIGIT FOUR BELOW",
   "~ DIGIT THREE ABOVE~ DIGIT TWO ABOVE%INVERTED V%THREE DOTS ABOVE&WO DOTS ABOVEpEHr FINAL FORM",
   "sINITIAL FORMtSOLATED FORMsMEDIAL FORMsWITH DOT BELOW) AND THREE DOTS ABOVE#MOVED BELOW",
   "xTHREE DOTS BELOW+POINTING UPWARDS BELOWyWO DOTS BELOWoGAFr FINAL FORMsINITIAL FORM",
   "tSOLATED FORMsMEDIAL FORMsWITH INVERTED STROKExRINGxTHREE DOTS ABOVEyWO DOTS BELOWpHAIN",
   "t FINAL FORMuINITIAL FORMvSOLATED FORMuMEDIAL FORMuWITH DOT BELOWzTHREE DOTS ABOVEpRAFpUEH",
   "s FINAL FORMtINITIAL FORMuSOLATED FORMtMEDIAL FORMoHAHr FINAL FORMsINITIAL FORMtSOLATED FORM",
   "sMEDIAL FORMsWITH EXTENDED ARABIC-INDIC DIGIT FOUR BELOWxHAMZA ABOVExINVERTED SMALL V BELOW",
   "xSMALL ARABIC LETTER TAH ABOVE_ND TWO DOTS^BELOWxTHREE DOTS ABOVE+POINTING UPWARDS BELOW",
   "yWO DOTS ABOVE)VERTICAL ABOVEqMZAt ISOLATED FORMpEHr DOACHASHMEE% FINAL FORM&INITIAL FORM",
   "(SOLATED FORM&MEDIAL FORMsFINAL FORMsGOALw FINAL FORMxINITIAL FORMySOLATED FORMxMEDIAL FORM",
   "xWITH HAMZA ABOVEsINITIAL FORMtSOLATED FORMsMEDIAL FORMsWITH INVERTED VxYEH ABOVE) FINAL FORM",
   "*ISOLATED FORMpIGH HAMZAy ALEFzWAWzYEHoJEEMs FINAL FORMtINITIAL FORMuSOLATED FORMtMEDIAL FORM",
   "tWITH THREE DOTS ABOVE,BELOWzWO DOTS ABOVEqHr FINAL FORMsISOLATED FORMoKAFr FINAL FORM",
   "sINITIAL FORMtSOLATED FORMsMEDIAL FORMsWITH DOT ABOVE#BELOWxRINGxTHREE DOTS BELOW",
   "yWO DOTS ABOVEqSHMIRI YEHpEHEHt FINAL FORMuINITIAL FORMvSOLATED FORMuMEDIAL FORM",
   "uWITH DOT ABOVEzSMALL VzTHREE DOTS ABOVE.BELOW.POINTING UPWARDS BELOW!WO DOTS ABOVE",
   "+VERTICALLY BELOWpHAHs FINAL FORMtINITIAL FORMuSOLATED FORMtMEDIAL FORMpIRGHIZ OEy FINAL FORM",
   "zISOLATED FORMwYUy FINAL FORMzISOLATED FORMoLAMr FINAL FORMsINITIAL FORMtSOLATED FORM",
   "sMEDIAL FORMsWITH BARxDOT ABOVEzUBLE BARxSMALL ARABIC LETTER TAH ABOVE%VxTHREE DOTS ABOVE",
   "+BELOWpOW ALEFoMARKpEEMs FINAL FORMtINITIAL FORMuSOLATED FORMtMEDIAL FORMtWITH DOT ABOVE$BELOW",
   "yTHREE DOTS ABOVEoNGq FINAL FORMrINITIAL FORMsSOLATED FORMrMEDIAL FORMqOEHt FINAL FORM",
   "uINITIAL FORMvSOLATED FORMuMEDIAL FORMpOONs FINAL FORMtGHUNNAz FINAL FORM!ISOLATED FORM",
   "tINITIAL FORMuSOLATED FORMtMEDIAL FORMtWITH DOT BELOWyINVERTED SMALL VyRINGySMALL TAH&V",
   "yTHREE DOTS ABOVEzWO DOTS BELOWpYEHs FINAL FORMtINITIAL FORMuSOLATED FORMtMEDIAL FORMoOE",
   "q FINAL FORMrISOLATED FORMoPEHr FINAL FORMsINITIAL FORMtSOLATED FORMsMEDIAL FORM",
   "sWITH SMALL MEEM ABOVE%VrEHt FINAL FORMuINITIAL FORMvSOLATED FORMuMEDIAL FORMoQAFr FINAL FORM",
   "sINITIAL FORMtSOLATED FORMsMEDIAL FORMsWITH DOT ABOVE#BELOW) AND NO DOTS ABOVE",
   "xTHREE DOTS ABOVEoREHr FINAL FORMsISOLATED FORMsWITH DOT BELOW) AND DOT ABOVExFOUR DOTS ABOVE",
   "xHAMZA ABOVExINVERTED VxLOOPxRINGxSMALL ARABIC LETTER TAH AND TWO DOTS%NOON ABOVE%V& BELOW",
   "yTROKExTWO DOTS ABOVE)VERTICALLY ABOVEpNOONt FINAL FORMuINITIAL FORMvSOLATED FORMuMEDIAL FORM",
   "pOHINGYA YEHpREHs FINAL FORMtISOLATED FORMoSADr FINAL FORMsINITIAL FORMtSOLATED FORM",
   "sMEDIAL FORMsWITH THREE DOTS ABOVE+BELOWyWO DOTS BELOWpEENs FINAL FORMtINITIAL FORM",
   "uSOLATED FORMtMEDIAL FORMtWITH DOT BELOW AND DOT ABOVEyEXTENDED ARABIC-INDIC DIGIT FOUR ABOVE",
   "yFOUR DOTS ABOVEyINVERTED VySMALL ARABIC LETTER TAH AND TWO DOTSyTHREE DOTS BELOW",
   "< AND THREE DOTS ABOVEzWO DOTS VERTICALLY ABOVEpHEENt FINAL FORMuINITIAL FORMvSOLATED FORM",
   "uMEDIAL FORMuWITH DOT BELOWpTRAIGHT WAWpUPERSCRIPT ALEFpWASH KAFoTAHr FINAL FORMsINITIAL FORM",
   "tSOLATED FORMsMEDIAL FORMsWITH DOT BELOWxTHREE DOTS ABOVE+BELOWyWO DOTS ABOVEpCHEHt FINAL FORM",
   "uINITIAL FORMvSOLATED FORMuMEDIAL FORMuWITH DOT ABOVEzSMALL VtEHv FINAL FORMwINITIAL FORM",
   "xSOLATED FORMwMEDIAL FORMpEHr FINAL FORMsINITIAL FORMtSOLATED FORMsMARBUTAz FINAL FORM!GOAL",
   "!ISOLATED FORMtEDIAL FORMsWITH RINGxSMALL TEH ABOVE%VxTHREE DOTS ABOVE DOWNWARDSrEH",
   "t FINAL FORMuINITIAL FORMvSOLATED FORMuMEDIAL FORMpHALs FINAL FORMtISOLATED FORMqEH",
   "s FINAL FORMtINITIAL FORMuSOLATED FORMtMEDIAL FORMqIN YEHpTEHs FINAL FORMtINITIAL FORM",
   "uSOLATED FORMtMEDIAL FORMtWITH SMALL VsEHu FINAL FORMvINITIAL FORMwSOLATED FORMvMEDIAL FORMoU",
   "p FINAL FORMqISOLATED FORMqWITH HAMZA ABOVE) ISOLATED FORM",
   "pIGHUR KAZAKH KIRGHIZ ALEF MAKSURA INITIAL FORM|MEDIAL FORMoVEq FINAL FORMrISOLATED FORMqH",
   "r FINAL FORMsINITIAL FORMtSOLATED FORMsMEDIAL FORMoWAWr FINAL FORMsISOLATED FORM",
   "sWITH DOT ABOVE#WITHINxEXTENDED ARABIC-INDIC DIGIT THREE ABOVE~ TWO ABOVExHAMZA ABOVE",
   "+ FINAL FORM,ISOLATED FORMxRINGxTWO DOTS ABOVEoYEHr BARREEy FINAL FORMzISOLATED FORM",
   "zWITH EXTENDED ARABIC-INDIC DIGIT THREE ABOVE~C DIGIT TWO ABOVE&HAMZA ABOVE= FINAL FORM",
   ">ISOLATED FORMsFINAL FORMsINITIAL FORMtSOLATED FORMsMEDIAL FORMsWITH HAMZA ABOVE+ FINAL FORM",
   ",INITIAL FORM.SOLATED FORM,MEDIAL FORMxSMALL VxTAILyHREE DOTS BELOW",
   "yWO DOTS BELOW AND DOT ABOVE>HAMZA ABOVE>SMALL NOON ABOVEpUq FINAL FORMrISOLATED FORMoZAH",
   "r FINAL FORMsINITIAL FORMtSOLATED FORMsMEDIAL FORMqINs FINAL FORMtISOLATED FORM",
   "tWITH INVERTED V ABOVEiIGATURE AIN WITH ALEF MAKSURA FINAL FORM:ISOLATED FORM",
   "zJEEM INITIAL FORM(SOLATED FORM&WITH MEEM FINAL FORM<INITIAL FORMzMEEM INITIAL FORM",
   "(SOLATED FORM&WITH ALEF MAKSURA FINAL FORM,MEEM FINAL FORM<INITIAL FORM,YEH FINAL FORM",
   "zYEH FINAL FORM%ISOLATED FORMrKBAR ISOLATED FORMrLAYHAA AS-SALAAMvE ISOLATED FORMvI AS-SALAAM",
   "(TU WAS-SALAAMwM AS-SALAAMxAA AS-SALAAMsEF MAKSURA WITH SUPERSCRIPT ALEF FINAL FORM",
   "~ ISOLATED FORMvWITH FATHATAN FINAL FORM,ISOLATED FORMsLAH ISOLATED FORMrZZA WA JALL",
   "qBEH WITH ALEF MAKSURA FINAL FORM:ISOLATED FORMzHAH INITIAL FORM&SOLATED FORM",
   "%WITH YEH FINAL FORM!EH INITIAL FORM%MEDIAL FORMzJEEM INITIAL FORM(SOLATED FORM",
   "zKHAH INITIAL FORM(SOLATED FORM&WITH YEH FINAL FORMzMEEM FINAL FORM&INITIAL FORM(SOLATED FORM",
   "&MEDIAL FORMzNOON FINAL FORMzREH FINAL FORMzYEH FINAL FORM%ISOLATED FORMzZAIN FINAL FORM",
   "rISMILLAH AR-RAHMAN AR-RAHEEMqDAD WITH ALEF MAKSURA FINAL FORM:ISOLATED FORMzHAH INITIAL FORM",
   "&SOLATED FORM%WITH ALEF MAKSURA FINAL FORM+YEH FINAL FORMzJEEM INITIAL FORM(SOLATED FORM",
   "zKHAH INITIAL FORM(SOLATED FORM&WITH MEEM FINAL FORM<INITIAL FORMzMEEM INITIAL FORM",
   "(SOLATED FORMzREH FINAL FORM%ISOLATED FORMzYEH FINAL FORM%ISOLATED FORM",
   "qFEH WITH ALEF MAKSURA FINAL FORM:ISOLATED FORMzHAH INITIAL FORM&SOLATED FORM",
   "zJEEM INITIAL FORM(SOLATED FORMzKHAH INITIAL FORM(SOLATED FORM&WITH MEEM FINAL FORM",
   "<INITIAL FORMzMEEM INITIAL FORM(SOLATED FORM&WITH YEH FINAL FORMzYEH FINAL FORM%ISOLATED FORM",
   "qGHAIN WITH ALEF MAKSURA FINAL FORM<ISOLATED FORM#JEEM INITIAL FORM*SOLATED FORM",
   "#MEEM INITIAL FORM*SOLATED FORM)WITH ALEF MAKSURA FINAL FORM/MEEM FINAL FORM/YEH FINAL FORM",
   "#YEH FINAL FORM(ISOLATED FORMqHAH WITH ALEF MAKSURA FINAL FORM:ISOLATED FORMzJEEM INITIAL FORM",
   "(SOLATED FORM&WITH YEH FINAL FORMzMEEM INITIAL FORM(SOLATED FORM&WITH ALEF MAKSURA FINAL FORM",
   ",YEH FINAL FORMzYEH FINAL FORM%ISOLATED FORMrEH WITH ALEF MAKSURA ISOLATED FORM",
   "zJEEM INITIAL FORM(SOLATED FORMzMEEM INITIAL FORM(SOLATED FORM&WITH JEEM INITIAL FORM",
   ",MEEM INITIAL FORMzSUPERSCRIPT ALEF INITIAL FORMzYEH ISOLATED FORMqJALLAJALALOUHOU",
   "rEEM WITH ALEF MAKSURA FINAL FORM;ISOLATED FORM!HAH INITIAL FORM(SOLATED FORM",
   "&WITH ALEF MAKSURA FINAL FORM,YEH FINAL FORM!MEEM INITIAL FORM)SOLATED FORM",
   "(WITH ALEF MAKSURA FINAL FORM.HAH FINAL FORM<INITIAL FORM.YEH FINAL FORM!YEH FINAL FORM",
   "&ISOLATED FORMqKAF WITH ALEF FINAL FORM&ISOLATED FORM&MAKSURA FINAL FORM:ISOLATED FORM",
   "zHAH INITIAL FORM&SOLATED FORMzJEEM INITIAL FORM(SOLATED FORMzKHAH INITIAL FORM(SOLATED FORM",
   "zLAM FINAL FORM%INITIAL FORM&SOLATED FORM%MEDIAL FORMzMEEM FINAL FORM&INITIAL FORM",
   "(SOLATED FORM&MEDIAL FORM&WITH MEEM FINAL FORM<INITIAL FORM,YEH FINAL FORMzYEH FINAL FORM",
   "%ISOLATED FORMrHAH WITH ALEF MAKSURA FINAL FORM;ISOLATED FORM!HAH ISOLATED FORM",
   "!JEEM INITIAL FORM)SOLATED FORM!MEEM INITIAL FORM)SOLATED FORM!YEH FINAL FORM&ISOLATED FORM",
   "qLAM WITH ALEF FINAL FORM&ISOLATED FORM&MAKSURA FINAL FORM:ISOLATED FORM",
   "&WITH HAMZA ABOVE FINAL FORM^ISOLATED FORM=BELOW FINAL FORM^ISOLATED FORM",
   ",MADDA ABOVE FINAL FORM^ISOLATED FORMzHAH INITIAL FORM&SOLATED FORM",
   "%WITH ALEF MAKSURA FINAL FORM+MEEM FINAL FORM;INITIAL FORM+YEH FINAL FORM!EH INITIAL FORM",
   "zJEEM INITIAL FORM(SOLATED FORM&WITH JEEM FINAL FORM<INITIAL FORM,MEEM FINAL FORM<INITIAL FORM",
   ",YEH FINAL FORMzKHAH INITIAL FORM(SOLATED FORM&WITH MEEM FINAL FORM<INITIAL FORM",
   "zMEEM FINAL FORM&INITIAL FORM(SOLATED FORM&MEDIAL FORM&WITH HAH FINAL FORM;INITIAL FORM",
   ",YEH FINAL FORMzYEH FINAL FORM%ISOLATED FORMqMEEM WITH ALEF FINAL FORM(MAKSURA ISOLATED FORM",
   "!HAH INITIAL FORM(SOLATED FORM&WITH JEEM INITIAL FORM,MEEM INITIAL FORM,YEH FINAL FORM",
   "!JEEM INITIAL FORM)SOLATED FORM(WITH HAH INITIAL FORM.KHAH INITIAL FORM.MEEM INITIAL FORM",
   ".YEH FINAL FORM!KHAH INITIAL FORM)SOLATED FORM(WITH JEEM INITIAL FORM.MEEM INITIAL FORM",
   ".YEH FINAL FORM!MEEM FINAL FORM(INITIAL FORM)SOLATED FORM(WITH YEH FINAL FORM",
   "!YEH ISOLATED FORMrOHAMMAD ISOLATED FORMqNOON WITH ALEF MAKSURA FINAL FORM;ISOLATED FORM",
   "!HAH INITIAL FORM(SOLATED FORM&WITH ALEF MAKSURA FINAL FORM,MEEM INITIAL FORM,YEH FINAL FORM",
   "#EH INITIAL FORM&MEDIAL FORM!JEEM INITIAL FORM)SOLATED FORM(WITH ALEF MAKSURA FINAL FORM",
   ".HAH FINAL FORM<INITIAL FORM.MEEM FINAL FORM=INITIAL FORM.YEH FINAL FORM!KHAH INITIAL FORM",
   ")SOLATED FORM!MEEM FINAL FORM(INITIAL FORM)SOLATED FORM(MEDIAL FORM",
   "(WITH ALEF MAKSURA FINAL FORM.YEH FINAL FORM!NOON FINAL FORM!REH FINAL FORM!YEH FINAL FORM",
   "&ISOLATED FORM!ZAIN FINAL FORMqQAF WITH ALEF MAKSURA FINAL FORM:ISOLATED FORMzHAH INITIAL FORM",
   "&SOLATED FORMzMEEM INITIAL FORM(SOLATED FORM&WITH HAH FINAL FORM;INITIAL FORM,MEEM FINAL FORM",
   ",YEH FINAL FORMzYEH FINAL FORM%ISOLATED FORMsLA USED AS KORANIC STOP SIGN ISOLATED FORM",
   "rUDDISA SIRRAHqRADI ALLAAHU ANH)AA)UM+AA*NNAsHIMAHU ALLAAHyM ALLAAHsSOUL ISOLATED FORM",
   "rEH WITH SUPERSCRIPT ALEF ISOLATED FORMqSAD WITH ALEF MAKSURA FINAL FORM:ISOLATED FORM",
   "zHAH INITIAL FORM&SOLATED FORM%WITH HAH FINAL FORM:INITIAL FORM+YEH FINAL FORM",
   "zKHAH INITIAL FORMzMEEM INITIAL FORM(SOLATED FORM&WITH MEEM FINAL FORM<INITIAL FORM",
   "zREH FINAL FORM%ISOLATED FORMzYEH FINAL FORM%ISOLATED FORMsLAAMUHU ALAYNAAuM ISOLATED FORM",
   "tLA ISOLATED FORMwUSED AS KORANIC STOP SIGN ISOLATED FORMvLLAAHU ALAYHI WA-AALIH",
   "yHOU ALAYHE WASALLAMzU ALAYHI WAAALIHEE WA-SALLAMrEEN WITH ALEF MAKSURA FINAL FORM",
   ";ISOLATED FORM!HAH INITIAL FORM(SOLATED FORM&MEDIAL FORM&WITH JEEM INITIAL FORM",
   "#EH INITIAL FORM&MEDIAL FORM!JEEM INITIAL FORM)SOLATED FORM(MEDIAL FORM",
   "(WITH ALEF MAKSURA FINAL FORM.HAH INITIAL FORM!KHAH INITIAL FORM)SOLATED FORM(MEDIAL FORM",
   "(WITH ALEF MAKSURA FINAL FORM.YEH FINAL FORM!MEEM INITIAL FORM)SOLATED FORM(MEDIAL FORM",
   "(WITH HAH FINAL FORM<INITIAL FORM.JEEM INITIAL FORM.MEEM FINAL FORM=INITIAL FORM",
   "!REH FINAL FORM&ISOLATED FORM!YEH FINAL FORM&ISOLATED FORMrHADDA WITH DAMMA ISOLATED FORM",
   "+MEDIAL FORM*TAN ISOLATED FORM$FATHA ISOLATED FORM+MEDIAL FORM$KASRA ISOLATED FORM+MEDIAL FORM",
   "*TAN ISOLATED FORM$SUPERSCRIPT ALEF ISOLATED FORMsEEN WITH ALEF MAKSURA FINAL FORM",
   "<ISOLATED FORM#HAH FINAL FORM(INITIAL FORM)SOLATED FORM(MEDIAL FORM(WITH MEEM FINAL FORM",
   "=INITIAL FORM.YEH FINAL FORM$EH INITIAL FORM(MEDIAL FORM#JEEM FINAL FORM)INITIAL FORM",
   "*SOLATED FORM)MEDIAL FORM)WITH YEH FINAL FORM#KHAH FINAL FORM)INITIAL FORM*SOLATED FORM",
   ")MEDIAL FORM#MEEM FINAL FORM)INITIAL FORM*SOLATED FORM)MEDIAL FORM)WITH KHAH FINAL FORM",
   ">INITIAL FORM/MEEM FINAL FORM>INITIAL FORM#REH FINAL FORM(ISOLATED FORM#YEH FINAL FORM",
   "(ISOLATED FORMrUBHAANAHU WA TAAALAAqTABAARAKA WA-TAAALAAsH WITH ALEF MAKSURA FINAL FORM",
   ":ISOLATED FORMzHAH INITIAL FORM&SOLATED FORMzMEEM INITIAL FORM(SOLATED FORM&MEDIAL FORM",
   "&WITH HAH FINAL FORM;INITIAL FORM,MEEM INITIAL FORM,YEH FINAL FORMzYEH FINAL FORM",
   "%ISOLATED FORMrEH WITH ALEF MAKSURA FINAL FORM:ISOLATED FORMzHAH INITIAL FORM&SOLATED FORM",
   "%WITH JEEM FINAL FORM;INITIAL FORM+MEEM INITIAL FORM!EH INITIAL FORM%MEDIAL FORM",
   "zJEEM INITIAL FORM(SOLATED FORM&WITH ALEF MAKSURA FINAL FORM,MEEM INITIAL FORM,YEH FINAL FORM",
   "zKHAH INITIAL FORM(SOLATED FORM&WITH ALEF MAKSURA FINAL FORM,MEEM INITIAL FORM,YEH FINAL FORM",
   "zMEEM FINAL FORM&INITIAL FORM(SOLATED FORM&MEDIAL FORM&WITH ALEF MAKSURA FINAL FORM",
   ",HAH INITIAL FORM,JEEM INITIAL FORM,KHAH INITIAL FORM,YEH FINAL FORMzNOON FINAL FORM",
   "zREH FINAL FORMzYEH FINAL FORM%ISOLATED FORMzZAIN FINAL FORM",
   "rHAL WITH SUPERSCRIPT ALEF ISOLATED FORMsEH WITH ALEF MAKSURA FINAL FORM;ISOLATED FORM",
   "!HEH MEDIAL FORM!JEEM ISOLATED FORM!MEEM FINAL FORM(INITIAL FORM)SOLATED FORM(MEDIAL FORM",
   "!NOON FINAL FORM!REH FINAL FORM!YEH FINAL FORM&ISOLATED FORM!ZAIN FINAL FORM",
   "qUIGHUR KIRGHIZ YEH WITH HAMZA ABOVE WITH ALEF MAKSURA FINAL FORM",
   "~E WITH ALEF MAKSURA INITIAL FORM~E WITH ALEF MAKSURA ISOLATED FORMqWASALLAM ISOLATED FORM",
   "qYEH WITH ALEF MAKSURA FINAL FORM:ISOLATED FORMzHAH INITIAL FORM&SOLATED FORM",
   "%WITH YEH FINAL FORM#MZA ABOVE WITH AE FINAL FORM[ISOLATED FORM?LEF FINAL FORM^ISOLATED FORM",
   "^MAKSURA FINAL FORM~SURA ISOLATED FORM>E FINAL FORM@INITIAL FORM[SOLATED FORM>HAH INITIAL FORM",
   "^SOLATED FORM?EH INITIAL FORM]MEDIAL FORM>JEEM INITIAL FORM_SOLATED FORM>KHAH INITIAL FORM",
   ">MEEM FINAL FORM^INITIAL FORM_SOLATED FORM^MEDIAL FORM>NOON FINAL FORM>OE FINAL FORM",
   "[ISOLATED FORM>REH FINAL FORM>U FINAL FORM@ISOLATED FORM>WAW FINAL FORM]ISOLATED FORM",
   ">YEH FINAL FORM]ISOLATED FORM?U FINAL FORM[ISOLATED FORM>ZAIN FINAL FORM!EH INITIAL FORM",
   "%MEDIAL FORMzJEEM INITIAL FORM(SOLATED FORM&WITH YEH FINAL FORMzKHAH INITIAL FORM(SOLATED FORM",
   "zMEEM FINAL FORM&INITIAL FORM(SOLATED FORM&MEDIAL FORM&WITH MEEM FINAL FORM<INITIAL FORM",
   ",YEH FINAL FORMzNOON FINAL FORMzREH FINAL FORMzYEH FINAL FORM%ISOLATED FORMzZAIN FINAL FORM",
   "qZAH WITH MEEM INITIAL FORM(SOLATED FORM&MEDIAL FORMhMADDA WAAJIBmH ABOVEjRK NOON GHUNNA",
   "mSIDEWAYS NOON GHUNNAjTHEMATICAL AINvLEFuBEHuDADwLvOTLESS BEH$FEH$NOON$QAFwUBLE-STRUCK AIN+BEH",
   "+DAD.L+FEH+GHAIN+HAH+JEEM+KHAH+LAM+MEEM+NOON+QAF+REH+SAD,EEN,HEEN+TAH,EH,HAL.EH+WAW+YEH+ZAH.IN",
   "uFEHuGHAINuHAHuINITIAL AIN$BEH$DAD$FEH$GHAIN$HAH%EH$JEEM$KAF%HAH$LAM$MEEM$NOON$QAF$SAD%EEN",
   "%HEEN$TEH%HEH$YEHuJEEMuKAFvHAHuLAMvOOPED AIN$LEF#BEH#DAD%L#FEH#GHAIN#HAH$EH#JEEM#KHAH#LAM#MEEM",
   "#NOON#QAF#REH#SAD$EEN$HEEN#TAH$EH$HAL%EH#WAW#YEH#ZAH%INuMEEMuNOONuOPERATOR HAH WITH DAL",
   "%MEEM WITH HAH WITH TATWEELuQAFuREHuSADvEENvHEENvTRETCHED AIN&BEH&DAD(OTLESS BEH:FEH&FEH&GHAIN",
   "&HAH(EH&JEEM&KAF(HAH&MEEM&NOON&QAF&SAD(EEN(HEEN&TAH(EH(HEH&YEH&ZAHuTAHwILED AIN#DAD",
   "$OTLESS NOON,QAF#GHAIN#HAH#JEEM#KHAH#LAM#NOON#QAF#SAD$EEN$HEEN#YEHvEHvHALwEHuWAWuYEHuZAHwIN",
   "hNUMBER MARK ABOVEoSIGNhOPEN DAMMATANmFATHATANmKASRATANhPERCENT SIGNiIASTRE MARK ABOVE",
   "iLACE OF SAJDAHiOETIC VERSE SIGNjUND MARK ABOVEhQUESTION MARKhRAISED ROUND DOTjYiEVERSED DAMMA",
   "iIGHT ARROWHEAD ABOVE$ WITH DOTxBELOWiOUNDED HIGH STOP WITH FILLED CENTREhSEMICOLONiHADDA",
   "n ISOLATED FORMoMEDIAL FORMiIGN ALAYHE ASSALLAMmMISRAmRADI ALLAHOU ANHUoHMATULLAH ALAYHEmSAFHA",
   "oLLALLAHOU ALAYHE WASSALLAMoMVAToNAHnINDHI AMPERSANDtPOSTPOSITION MENmTAKHALLUSiMALL DAMMA",
   "nFARSI YEHpTHAnHIGH AINsDOTLESS HEAD OF KHAHsFARSI YEHtOOTNOTE MARKERsJEEMsLAM ALEF",
   "tIGATURE ALEF WITH LAM WITH YEH#QAF WITH LAM WITH ALEF MAKSURA#SAD WITH LAM WITH ALEF MAKSURA",
   "sMADDAtEEM INITIAL FORMySOLATED FORMsNOONw WITH KASRAsQAFsROUNDED ZEROsSADtEENtIGN SAFHAsTAH",
   "tHREE DOTSsUPRIGHT RECTANGULAR ZEROsWAWtORD AL-JUZyN-NISFyR-RUByS-SAJDAyTH-THALATHAxQIFxSAH",
   "zKTAxWAQFAsYEHv BARREE WITH TWO DOTS BELOWsZAHuINnKASRAnLOW MEEMrNOON WITH KASRArSEENrWAW",
   "sORD IMAALAxSHMAAMwTASHEELnWAWnYEHiTART OF RUB EL HIZBiUBSCRIPT ALEFjKUNm BELOWnISOLATED FORM",
   "nMEDIAL FORMjPERSCRIPT ALEF MOKHASSASiYMBOL DOT ABOVEsBELOWqUBLE VERTICAL BAR BELOW",
   "oFOUR DOTS ABOVEyBELOWoRINGoSMALL TAH ABOVEyBELOWoTHREE DOTS ABOVEzBELOW",
   "zPOINTING DOWNWARDS ABOVE@BELOWpWO DOTS ABOVExBELOWxVERTICALLY ABOVE+BELOWoWASLA ABOVE",
   "hTAIL FRAGMENTjTWEELo WITH FATHATAN ABOVEuOVERSTRUCK HAMZA(WAWuTWO DOTS BELOW",
   "iHOUSANDS SEPARATORiONE LOOP ABOVErBELOWmONE DOT ABOVEuBELOWmTWO DOTS ABOVEvBELOW",
   "iRIPLE DOT PUNCTUATION MARKiURNED DAMMA BELOWhVERTICAL TAILiOWEL SIGN DOT BELOW",
   "sINVERTED SMALL V ABOVEsSMALL V ABOVEhWAVY HAMZA BELOWhZWARAKAYg-INDIC CUBE ROOTnDIGIT EIGHT",
   "tFIVEuOURtNINEtONEtSEVENuIXtTHREEuWOtZEROnFOURTH ROOTnPER MILLE SIGNrTEN THOUSAND SIGNcCcIES",
   "cMENIAN ABBREVIATION MARKkPOSTROPHEjCAPITAL LETTER AYByBENyCAzHA!EHzOyDAyECHzHzTyFEHyGHADzIM",
   "yHOyINIyJAzHEHyKEH!NyLIWNyMENyNOWyOHyPEHzIWRyRAzEHySEHzHAyTIWNzOyVEWzOyXEHyYI!WNyZAzHEkOMMA",
   "jDRAM SIGNjEMPHASIS MARKkXCLAMATION MARKjFULL STOPjHYPHENjMODIFIER LETTER LEFT HALF RING",
   "jQUESTION MARKjSMALL LETTER AYBwBENwCAxHAyEHxOwDAwECHxHxTwFEHwGHADxIMwHOwINIwJAxHEHwKEHyNwLIWN",
   "wMENwNOWwOHwPEHxIWRwRAxEHwSEHxHAwTIWNxOxURNED AYBwVEWxOwXEHwYIy WITH STROKEyWNwZAxHE",
   "qIGATURE ECH YIWNyMEN ECH$INI$NOW$XEHyVEW NOWcROW POINTING DOWNWARDS THEN CURVING LEFTWARDS",
   ":RIGHTWARDSpRIGHTWARDS THEN CURVING DOWNWARDS;SOUTH WEST;UPWARDSpUPWARDS THEN NORTH WEST",
   "fHEAD-SHAPED POINTERcTICULATED LORRYeST PALETTEbSCENDING NODEdIA SYMBOLcSERTIONcTERISK",
   "i OPERATORhMdONISHED FACEdRAEAeONOMICAL SYMBOL FOR URANUScYMPTOTICALLY EQUAL TObTHLETIC SHOE",
   "cOM SYMBOLbUBERGINEcSTRAL SIGNcTO RICKSHAWeMATED TELLER MACHINEfOBILEbVESTAN ABBREVIATION MARK",
   "iLETTER AqArNrOqErEqNqOpBEqHEpCEpDEqHEpEqEpFEpGEqGEqHEpHEqMEpIqIpJEpKEpLEpMEpNEqGErVErYEqNEqYE",
   "pOqOpPEpREpSEqHErYEqSHEpTEqHEqTEpUqUpVEpXEqVEqYEpYEqYEpZEqHEcOCADObXEaBABYe ANGELfBOTTLEfCHICK",
   "fSYMBOLcCK OF ENVELOPEfWITH LEFTWARDS ARROW ABOVEe-TILTED SHADOWED WHITE RIGHTWARDS ARROW",
   "eSLANTED SOUTH ARROW WITH HOOKED TAIL(RIZONTAL TAILfPACEdONdTRIAN CAMELcDGER",
   "dMINTON RACQUET AND SHUTTLECOCKcGELdGAGE CLAIMdUETTE BREADcLINESE ADEG ADEGjCARIK PAMUNGKAH",
   "rRERENpSIKIjDIGIT EIGHTpFIVEqOURpNINEpONEpSEVENqIXpTHREEqWOpZEROjLETTER AIKARArKARAv TEDUNG",
   "rRCHAIC JNYArSYURA SASAKqBAs KEMBANGqCAs LACAqDAs MADUuURDA ALPAPRANAzMAHAPRANAqEF SASAKrKARA",
   "qGAs GORAqHAqIKARAv TEDUNGqJAs JERAqKAs MAHAPRANAsF SASAKrHOT SASAKqLAs LENGAy TEDUNGqMAqNA",
   "s RAMBATrGArYAqOKARAv TEDUNGqPAs KAPALqRAs REPAx TEDUNGqSAs SAGAvPAqTAs LATIKtMURDA MAHAPRANA",
   "tTAWArZIR SASAKqUKARAv TEDUNGqVE SASAKqWAqYAqZAL SASAKjMUSICAL SYMBOL COMBINING BENDE+ENDEP",
   "+GONG+JEGOGAN+KEMPLI< WITH JEGOGAN:UL< WITH JEGOGAN+TEGEHyDAENG!ING!NG$ GEDE%SURANGzENG!UNG",
   "zINGzONGzUNGyLEFT-HAND CLOSED PLAK?UK+OPEN PANG<ING<UNGyRIGHT-HAND CLOSED TAK?UK,OPEN DAG=UG",
   "jPAMADAp LANTANGmENENGlNTIo LANTANGjSIGN BISAHoCECEKoREREKANoSURANGoULU CANDRAsRICEM",
   "jVOWEL SIGN LA LENGA$ TEDUNGuPEPETz TEDUNGuRA REPA# TEDUNGuSUKUy ILUTuTALING! REPA( TEDUNG",
   "#TEDUNGvEDUNGuULUx SARIjWINDUdL OF YARNeET SHOESeOONh-SPOKED ASTERISKfT BOLD SCRIPT XjX",
   "k WITH BALLOTrOLD CHECKvSCRIPT XqCHECKqLIGHT XqSCRIPT XqXhSCRIPT XhXcMUM COLON",
   "iMBINING MARK KOQNDONvTUKWENTISjMAgFULL STOPgLETTER AnEEnFAAMAEoEEoOMoUnInKAoENpTpUXoIoOpGHOM",
   "pVUUoPAoUoYEEnLAoEEEEoIoOQoUnMoAoBAApENoEEEEpNoIoOoUnNAoDAAoGApGApKWAENoIoJAEMpEEpUAEoSHAoTEE",
   "pUUoUpAEoYInOnPAoEEpUXoHASE-A FIRIvGBIEE FONwHEUAEGHEUAE#RAEvKAFAxQwETxUKEUTNDAwPOQwUOQvLAPAQ",
   "wET KUTwOMMAEwUxAEPvMAEKEUPyMzBGBIEEzKPENzVEUXyNYIySIxNSUAExP PIEETwBANYIyQwEUNJOMNDEUQwGBASA",
   "wON NGGEUAETxOMEUTzPUQwVEUAENGAMvNAA MFONxQwDA LEERAEWAyANGGEUAETwENwGANGUxGENxKUE MFON!NZEUM",
   "wIKAwJAMwKAARAExINDIwSHAyIEEwTAPz MFAA!NTAAxOQPENwYETxIyT MONGKEUAEQwZA MFONxUN MEUT",
   "vPA LEERAEWAxAMyRAExMSHAExSHAEwETwON MFON PIPAEMBA.GBIEEzPA NJI PIPAEMBA:GBIEEwUPvROMvSEUNYAM",
   "wHINDA PA NJIyRAExOQ NSHUT YUMxUENSHUETyMwISAwONJAMxQxTwUUvTEUAENyTEUWENwITA MFONwU MAEMBAxAEP",
   "vU YUQ NAEwNKNOWNvVEEtB FEExUXvGHEUGHEN$UAEMvKAMwEUAEMyPUQyYEUXwIEEMxQvLAANAExM NSHUT NYAMwET",
   "wOM NTEUMvMAx NJEUAENA!UQAwBA MAELEEyARAExEURIxIT MBAAKETxUOQwEUQyT NGGEETwFIYAQxON TEUAEQ",
   "wONTIEENvNDU NJAAwGGAAMyEU MBUyUOQ# LARGExKINDI MVOPxOMwSENxHUETwTIEE SHEUOQwYAEMAExI NTEUM",
   "vPARUMwEESHIwITwUNGAAMvSAKEUAEwET TUwHET NJAQyUAEQTUwIEEwUEvTAAMwU MAEMGBIEEyNSIEEvVEUMvWUAET",
   "vYAFU LEERAEWAwEURAEtC BUNGvFUEvGBAYIwHAPyRAEvKAAwEN FATIGUEzLAWxTxUKAQyMySEUXzHEUAEPwPARAQ",
   "wUOP NKAARAExTvLAMxPwIQwUvMA KEUAERIyNSIEExEMBAySIwBAA CABBAGE-TREE!PICKETyNYIxEEKEETyRAEyUMzX",
   "xIyRIEENyTxUAEMyEwGBASAQwIEEwUAEvNANSANAQxQwDAMyPxEUAEREEzTxIDAxOMBUwGAQxGENyUzAEN NYAMzEETzM",
   "zONxKAQyUE MAEMBAxOMwJAEMyMxEEEEyUXxUEQwSAxEUAENxHAQxOMxUNyOT NGOMwTAAxENyUNGBAxU MBIT",
   "wYIR MKPARAQ MEUNwZAxEUMvPENwINxRIEENvRUvSETFONxUXwHIQxUEQwUAETvTAASHAEwETxUTEUXwITA YUEyUAEP",
   "vVEUAEPENyXvWANGKUOQwUPvYAAwEUQwU MUOMAExMxWOQtD FAAwEUFEUAETvGHAAxEUAEvKETxUAETMEUNyM",
   "yOT MBUAEyPwUxNxOMxQwWAETwYEEvLEEEExTxUAEPyMwIEEwOQwUMvMwAENJETxLEERIwBAAz SEVENxUOwEEEExUNyT",
   "wFEUAEzTxIEExOyNwGBEUNyIEEyOFUMwONIwUwVOPvNDAMxEEyUXxONwGGAAM#AEzPyEUXyUOMyWAENxKAPyEUAEQ!RI",
   "yIEEyUNyYEEwIwJAPxEUAEMzTxIyEExUEQwSHEEyUTxIEEP!TxUMwTEEyUMxUUwUwYAMxETxIxUEvPAPwEExUTAEwIPwUQ",
   "xUTvRAEMwEN MUCHzOLDwIIvSAPxQwEUAEQwHEEyUAEzXxIIxOQxUwOTwUAExExUvTAEwEEEExUAENyNyTwIwOQwUxOT",
   "vWAPwUAENvYAEMMAEwENwUOMyPxWOQtE AvFAxQwEEwOMwU CALLyIyREMEDYxEyTvGBETyUXwHAAMAExETyUAEzNzXxOM",
   "vIvKETxUAEyXwIwOwPEUXwUETxOPxTvLAAMxPxQwEUAEMwOMxONyTxQwUvMAxEyMxPxQwBEEyUMwENwFEUQwGBAyENwI",
   "xEEwONwUAEwVIvNAxEwDAA MY HOUSE!SOFTNESSyPxIAQyQxUNwGAxEUREUTxGEEEEzUAE$TyUAESHAE NYAMzPzRAE",
   "xKAzAMIyEUAEM!XyUMzPxOPyQxUAE!TwJAEMLIxEEz EPOCHyUXwKOMwSHIEEyUEzOPwTAPxUMwYI BETWEENzCLEAVER",
   "wZAQxUQvOvPA PEOPLEzLURALxAyMwEEMxUTyXwIxEEQyTwOxONwUxAEyQxExMvRAExQwEUXwIMGBAvSAAwEExTwHEUAEQ",
   "xIQxOyQwOMwUAENvTAAyQxEN NTEUMxMxQwENxUyAEQwOOyNxQwUAExMyAEvVEExUAEwOMvWEUXwUExOvYAPwEUAE!TyM",
   "yXwIEExTwOQ COVERzSWIMMINGwUAENxEQxNxQtF EEvFOMvKAwENxTwOwPAwUwYEEvLAwIwOQvMwAwBAAxENwEEEEwO",
   "vNDAAwGGAxKWAENwIwJAEMxUAEwSHAwTEEwUxAEwYIvPEExUXwUAEvREExNxUXwIEExIwUvSAMBAwEUXwHIIxOxUwIwUU",
   "vTAAxEwETvUvVUEQvWAwUEvYAwOQoIoUAEpEnRAEoEEpNpUXoIEEpIoUnSAMBAoEUXoHEUXpIIpOpUoIoUUnTAApEoENpT",
   "oInUnWAoUEnYAoOQoUQgNJAEMLIgQUESTION MARKgSEMICOLONcNANAdJOdKeNOTE WITH DOLLAR SIGNoEURO SIGN",
   "oPOUND SIGNoYEN SIGNcR CHARTeOF SOAPdBER POLEcSEBALLdKETgBALL AND HOOP",
   "dSA VAH COMBINING HIGH TONEy-LOW TONEuLOW TONEx-MID TONEuMID TONEkFULL STOPkLETTER ArBArCE",
   "rDHIIsOrEsEsNNIrFArGAHsBUrHWAHrIrJOrKAsPAHrMBErOsOrPArSErTOrUsWUrVUrWAtDDArYEINsIErZOcT",
   "dAK CONSONANT SIGN HvNGgLETTER AnBAnCAnDAnGAnHAnInJAnKARO BAnLAnMApNDAILING HAyNAySAoBAnNAoDA",
   "oGAoORTHERN TAoYAnPApKPAK WAnRAnSAoIMALUNGUN AyGAyHAyLAyMAyPAyRAySAyWAyYAoOUTHERN TAnUnWAnYA",
   "gPANGOLATjONGONANgSIGN TOMPIhYMBOL BINDU JUDULtNA METEKtPANGOLATuINARBORASgVOWEL SIGN EsErI",
   "rKARO IwOrOrPAKPAK ErUs FOR SIMALUNGUN SAdHeTUBdTERYbEACH WITH UMBRELLA",
   "dMED ASCENDING MUSICAL NOTEShDESCENDING MUSICAL NOTEShEIGHTH NOTEShSIXTEENTH NOTESdNSdR FACE",
   "eDED PERSONdTING HEARTdVERcCAUSEcDcER MUGdTLEcLdLe PEPPERfSYMBOLfWITH CANCELLATION STROKE",
   "eHOP BELLcNGALI ABBREVIATION SIGNjNJIjU LENGTH MARKiCURRENCY DENOMINATOR SIXTEEN",
   "rNUMERATOR FOUR#ONE& LESS THAN THE DENOMINATOR#THREE$WOiDIGIT EIGHToFIVEpOURoNINEoONEoSEVENpIX",
   "oTHREEpWOoZEROiGANDA MARKiISSHARiLETTER AqAqIqUpBAqHApCAqHApDAqDArHAqHApEpGAqHApHApIqIpJAqHA",
   "pKAqHAsNDA TApLApMApNAqGAqNAqYApOpPAqHApRAr WITH LOWER DIAGONALxMIDDLE DIAGONALqHAqRApSAqHAqSA",
   "pTAqHAqTArHApUqUpVEDIC ANUSVARAqOCALIC LyLxRyRpYAqYAiRUPEE MARKoSIGNiSANDHI MARKjIGN ANUSVARA",
   "oVAGRAHAnCANDRABINDUnNUKTAnVIRAMApSARGAiVOWEL SIGN AAuIuUtEtIuItOtUuUtVOCALIC L$L#R$R",
   "dT ARROW POINTING DOWNWARDS THEN NORTH EASTeO BOXdZENE RINGm WITH CIRCLEcT SYMBOLdWEEN",
   "cVERAGE BOXbHAIKSUKI DANDAlIGIT EIGHTqFIVErOURqNINEqONEqSEVENrIXqTHREErWOqZEROlOUBLE DANDA",
   "kGAP FILLER-1v2kHUNDREDS UNIT MARKkLETTER AsAsIsUrBAsHArCAsHArDAsDAtHAsHArErGAsHArHArIsIrJAsHA",
   "rKAsHArLArMArNAsGAsNAsYArOrPAsHArRArSAsHAsSArTAsHAsTAtHArUsUrVAsOCALIC LzR!RrYAkNUMBER EIGHTwY",
   "rFIFTYtVEsORTYtURrNINEvTYrONErSEVENwTYsIXuTYrTENsHIRTYtREEsWENTYtOkSIGN ANUSVARAqVAGRAHA",
   "pCANDRABINDUpVIRAMArSARGAkVOWEL SIGN AAwIwUvEvIwIvOvUwUvVOCALIC L%R&RkWORD SEPARATORbICYCLE",
   "gISTcG REVERSE SOLIDUSeSOLIDUScKINIcLLED CAPeIARDScOHAZARD SIGNcRDdTHDAY CAKEcSONcTCOIN SIGN",
   "dING LIPbLACK BOWTIEgCENTRE WHITE STARhHESS BISHOPs ROTATED NINETY DEGREES",
   "#TWO HUNDRED SEVENTY DEGREESmEQUIHOPPERw ROTATED NINETY DEGREESmKINGq ROTATED NINETY DEGREES",
   "zTWO HUNDRED SEVENTY DEGREESnNIGHTs ROTATED FORTY-FIVE DEGREES#NINETY DEGREES",
   "#ONE HUNDRED THIRTY-FIVE DEGREES#THREE HUNDRED FIFTEEN DEGREES$WO HUNDRED SEVENTY DEGREES",
   ";TWENTY-FIVE DEGREESs-BISHOPtQUEENtROOKmPAWNq ROTATED NINETY DEGREES",
   "zTWO HUNDRED SEVENTY DEGREESmQUEENr ROTATED NINETY DEGREES!TWO HUNDRED SEVENTY DEGREESmROOK",
   "q ROTATED NINETY DEGREESzTWO HUNDRED SEVENTY DEGREESmTURNED BISHOPtKINGuNIGHTtPAWNtQUEENtROOK",
   "hIRCLEm FOR RECORDnWITH DOWN ARROWsTWO WHITE DOTSsWHITE DOT RIGHThLUB SUIThROSS ON SHIELD",
   "hURVED DOWNWARDS AND LEFTWARDS ARROW#RIGHTWARDS ARROWnLEFTWARDS AND DOWNWARDS ARROW",
   "#UPWARDS ARROWnRIGHTWARDS AND DOWNWARDS ARROW$UPWARDS ARROWnUPWARDS AND LEFTWARDS ARROW",
   "zRIGHTWARDS ARROWgDIAMONDn CENTREDoMINUS WHITE XoON CROSSoSUIToWITH DOWN ARROW",
   "hOWN POINTING BACKHAND INDEXk-POINTING DOUBLE TRIANGLEuISOSCELES RIGHT TRIANGLEuSMALL TRIANGLE",
   "uTRIANGLEkWARDS EQUILATERAL ARROWHEADhRAUGHTS KINGpMANiOPLETgFLAGiORETTEhOLDERiUR POINTED STAR",
   "gHARD SHELL FLOPPY DISKhEARTl SUITiXAGONhORIZONTAL ELLIPSEiURGLASSgLARGE CIRCLEmSQUARE",
   "hEFT LANE MERGElPOINTING BACKHAND INDEXuINDEXk-POINTING DOUBLE TRIANGLE, WITH VERTICAL BAR",
   "uISOSCELES RIGHT TRIANGLEuPOINTERuSMALL TRIANGLEuTRIANGLEkWARDS BULLETqEQUILATERAL ARROWHEAD",
   "hOWER LEFT TRIANGLEmRIGHT TRIANGLEiZENGEgMEDIUM DIAMONDoOWN-POINTING TRIANGLE, CENTRED",
   "nLEFT-POINTING TRIANGLE, CENTREDoOZENGEnRIGHT-POINTING TRIANGLE. CENTREDnSMALL DIAMONDtLOZENGE",
   "tSQUAREoQUAREnUP-POINTING TRIANGLE* CENTREDhOON LILITHgNIBgOCTAGONgPARALLELOGRAMhENNANTjTAGON",
   "hUSHPINgQUESTION MARK ORNAMENTgRECTANGLEhIGHT POINTING BACKHAND INDEXvINDEX",
   "l-POINTING DOUBLE TRIANGLE. WITH VERTICAL BARvISOSCELES RIGHT TRIANGLEvPENTAGONwOINTER",
   "vSMALL TRIANGLEvTRIANGLE% WITH DOUBLE VERTICAL BARlWARDS ARROWwHEADrBULLET",
   "rEQUILATERAL ARROWHEADhOSETTEgSAFETY SCISSORShCISSORShHOGI PIECEhKULL AND CROSSBONES",
   "hLIGHTLY SMALL CIRCLEvSQUAREhMALL DIAMONDmLOZENGEmSQUAREnTARiILING FACEhNOWMANhPADE SUIThQUARE",
   "m BUTTONnCENTREDnFOR STOPhTARhUN WITH RAYSgTELEPHONEhINY DIAMONDlLOZENGElSQUARE",
   "hOUCHTONE TELEPHONEhRUCKhWO-WAY LEFT WAY TRAFFICgUNIVERSAL RECYCLING SYMBOL",
   "hP POINTING BACKHAND INDEXi-POINTING DOUBLE TRIANGLEsISOSCELES RIGHT TRIANGLEsSMALL TRIANGLE",
   "sTRIANGLEiPER LEFT TRIANGLEmRIGHT TRIANGLEiWARDS EQUILATERAL ARROWHEADgVERTICAL ELLIPSE",
   "pRECTANGLEjY SMALL DIAMONDrLOZENGErSQUAREf-FEATHERED NORTH EAST ARROWqRIGHTWARDS ARROW",
   "qSOUTH EAST ARROWgLETTER CAPITAL CvHvIvRvZdNK SYMBOLcOCK SEXTANT-1p2q3r4s5s6r5s6r6q4r5s6r6q5r6",
   "q6p3q4r5s6r6q56q6p4q5r6q6p5q6p6o2p3q4r5s6r6q5r6q6p4q5r6p5q6p6o3p4q5r6q6p5q6p6o4p5q6p6o5p6o6",
   "dSSOMdWFISHcUE BOOKfHEARTeBERRIESbOARcLD EIGHT SPOKED ASTERISKfFIVE SPOKED ASTERISK",
   "fGREEK CROSSfSALTIREgIX SPOKED ASTERISKfWHITE CIRCLElSQUAREcMdBcNEcOKeMARKi TABSeSdMERANG",
   "cPOMOFO FINAL LETTER GwHwKwPwTjLETTER ArHrIsNNrMrNsGsNrUsNNqBrUqCrHqDqErErHrIrNsGsNrRqFqGrHrN",
   "rUrWqHqIrHrMrNNtNrRrUqJrIqKrWqLrHqMqNrGsGrNqOr WITH DOT ABOVErErMrNGsNrOrUqPqQqRqSrHqTqUrNNqV",
   "qXqZrHrIrYcTTLE WITH POPPING CORKeOM ARC ANTICLOCKWISE ARROWhCURLY BRACKEThHALF BLACK CIRCLE",
   "mINTEGRALmLEFT PARENTHESISmRIGHT PARENTHESIShLEFT CORNERnROPmHALF BRACKEThPARENTHESIS",
   "hRIGHT CORNERoROPnHALF BRACKEThSQUARE BRACKETv OVER TOP SQUARE BRACKEThTORTOISE SHELL BRACKET",
   "cUQUETh OF FLOWERScW AND ARROWdL OF HYGIEIAfWITH SPOONeINGdTIEg WITH LEFT HALF BLACK",
   "mRIGHT HALF BLACKcX DRAWINGS DOUBLE DOWN AND HORIZONTAL%LEFT%RIGHTuHORIZONTAL",
   "uUP AND HORIZONTAL#LEFT#RIGHTuVERTICAL$ AND HORIZONTAL*LEFT*RIGHT",
   "pWN DOUBLE AND HORIZONTAL SINGLE%LEFT SINGLE%RIGHT SINGLEsHEAVY AND HORIZONTAL LIGHT",
   "$LEFT LIGHT*UP LIGHT$RIGHT LIGHT+UP LIGHT$UP HORIZONTAL LIGHTsLIGHT AND HORIZONTAL HEAVY",
   "$LEFT HEAVY*UP HEAVY$RIGHT HEAVY+UP HEAVY$UP HORIZONTAL HEAVYsSINGLE AND HORIZONTAL DOUBLE",
   "%LEFT DOUBLE%RIGHT DOUBLEnHEAVY DOUBLE DASH HORIZONTAL(VERTICALvWNx AND HORIZONTAL$LEFT$RIGHT",
   "tHORIZONTALtLEFTx AND LIGHT RIGHTtQUADRUPLE DASH HORIZONTAL+VERTICALtRIGHT",
   "tTRIPLE DASH HORIZONTAL(VERTICALtUPv AND HORIZONTAL!LEFT#IGHT DOWN!RIGHTtVERTICAL",
   "# AND HORIZONTAL)LEFT)RIGHTnLEFT DOWN HEAVY AND RIGHT UP LIGHTsHEAVY AND RIGHT DOWN LIGHT",
   "+UP LIGHT+VERTICAL LIGHTsLIGHT AND RIGHT DOWN HEAVY+UP HEAVY+VERTICAL HEAVY",
   "sUP HEAVY AND RIGHT DOWN LIGHToIGHT ARC DOWN AND LEFT)RIGHTxUP AND LEFT&RIGHTtDIAGONAL CROSS",
   "$DIAMOND$MIDDLE LEFT TO LOWER CENTRE~ENTRE TO MIDDLE RIGHT?UPPER CENTRE TO MIDDLE RIGHT",
   "~ENTRE TO MIDDLE RIGHT TO LOWER CENTRE,RIGHT TO LOWER CENTRE",
   "@UPPER CENTRE TO MIDDLE LEFT TO LOWER CENTRE$UPPER CENTRE TO MIDDLE LEFT",
   "~ LEFT AND MIDDLE RIGHT TO LOWER CENTRE~ LEFT TO LOWER CENTRE",
   "~ LEFT TO LOWER CENTRE TO MIDDLE RIGHT~ RIGHT~ RIGHT AND MIDDLE LEFT TO LOWER CENTRE",
   "~ RIGHT TO LOWER CENTRE~ RIGHT TO LOWER CENTRE TO MIDDLE LEFT+LEFT TO LOWER RIGHT",
   "+RIGHT TO LOWER LEFTuOUBLE DASH HORIZONTAL(VERTICALvWNx AND HORIZONTAL$LEFT$RIGHTtHORIZONTAL",
   "% WITH VERTICAL STROKEtLEFTx AND HEAVY RIGHTtQUADRUPLE DASH HORIZONTAL+VERTICALtRIGHT",
   "tTRIPLE DASH HORIZONTAL(VERTICALtUPv AND HEAVY DOWN#ORIZONTAL!LEFT!RIGHTtVERTICAL",
   "# AND HORIZONTAL)LEFT)RIGHTnRIGHT DOWN HEAVY AND LEFT UP LIGHTtHEAVY AND LEFT DOWN LIGHT",
   "+UP LIGHT+VERTICAL LIGHTtLIGHT AND LEFT DOWN HEAVY+UP HEAVY+VERTICAL HEAVY",
   "tUP HEAVY AND LEFT DOWN LIGHTnUP DOUBLE AND HORIZONTAL SINGLE#LEFT SINGLE#RIGHT SINGLE",
   "qHEAVY AND DOWN HORIZONTAL LIGHT!HORIZONTAL LIGHT!LEFT DOWN LIGHT(LIGHT!RIGHT DOWN LIGHT)LIGHT",
   "qLIGHT AND DOWN HORIZONTAL HEAVY!HORIZONTAL HEAVY!LEFT DOWN HEAVY(HEAVY!RIGHT DOWN HEAVY)HEAVY",
   "qSINGLE AND HORIZONTAL DOUBLE#LEFT DOUBLE#RIGHT DOUBLEnVERTICAL DOUBLE AND HORIZONTAL SINGLE",
   "*LEFT SINGLE*RIGHT SINGLEwHEAVY AND HORIZONTAL LIGHT)LEFT LIGHT)RIGHT LIGHT",
   "wLIGHT AND HORIZONTAL HEAVY)LEFT HEAVY)RIGHT HEAVYwSINGLE AND HORIZONTAL DOUBLE*LEFT DOUBLE",
   "*RIGHT DOUBLEdING GLOVEcYdS SYMBOLbPHbRAHMI DANDAiIGIT EIGHTnFIVEoOURnNINEnONEnSEVENoIXnTHREE",
   "oWOnZEROiOUBLE DANDAhLETTER ApApIpUoBApHAoCApHAoDApDAqHApHAoEoGApHAoHAoIpIoJApHAoKApHAoLApLA",
   "oMAoNApGApNApYAoOpLD TAMIL LLA!LAyNNNAyRRAySHORT E&OoPApHAoRAoSApHApSAoTApHApTAqHAoUpUoVA",
   "pOCALIC LxLwRxRoYAhNUMBER EIGHTtYoFIFTYqVEpORTYqURoJOINERoNINEsTYoONEr HUNDREDsTHOUSANDoSEVEN",
   "tTYpIXrTYoTENpHIRTYqREEpWENTYqOhPUNCTUATION CRESCENT BARtDOTvUBLE DOTtLINEuOTUShSIGN ANUSVARA",
   "mCANDRABINDUmJIHVAMULIYAmOLD TAMIL VIRAMAmUPADHMANIYAmVISARGAhVIRAMAiOWEL SIGN AAtItU",
   "sBHATTIPROLU AAsEsItIsOtLD TAMIL SHORT E+OsUtUsVOCALIC L#L!R#RdILLE PATTERN BLANKqDOTS-1w2x3y4",
   "z5!6#7$8#8!7#8!8z6!7#8!8z7!8z8y5z6!7#8!8z7!8z8y6z7!8z8y7z8y8x4y5z6!7#8!8z7!8z8y6z7!8z8y7z8y8x5",
   "y6z7!8z8y7z8y8x6y7z8y8x7y8x8w3x4y5z6!7#8!8z7!8z8y6z7!8z8y7z8y8x5y6z7!8z8y7z8y8x6y7z8y8x7y8x8w4",
   "x5y6z7!8z8y7z8y8x6y7z8y8x7y8x8w5x6y7z8y8x7y8x8w6x7y8x8w7x8w8v2w3x4y5z6!7#8!8z7!8z8y6z7!8z8y7z8",
   "y8x5y6z7!8z8y7z8y8x6y7z8y8x7y8x8w4x5y6z7!8z8y7z8y8x6y7z8y8x7y8x8w5x6y7z8y8x7y8x8w6x7y8x8w7x8w8",
   "v3w4x5y6z7!8z8y7z8y8x6y7z8y8x7y8x8w5x6y7z8y8x7y8x8w6x7y8x8w7x8w8v4w5x6y7z8y8x7y8x8w6x7y8x8w7x8",
   "w8v5w6x7y8x8w7x8w8v6w7x8w8v7w8v8eNcEADeK PERMITTED HEREeST-FEEDINGdVEcICKdDE WITH VEIL",
   "eGE AT NIGHTdEFCASEfScOCCOLIdKEN BARhCIRCLE WITH NORTHWEST ARROWhHEARTdOMdWN HEARTbSbUBBLE TEA",
   "gScCKETcGdINESE END OF SECTIONjLETTER AqBAqCAqDAqGAqHAqJAqKAqLAqMArPAqNArGAsKArRArYAsCAqPAqRA",
   "qSAqTAqVAqYAjPALLAWAjVOWEL SIGN AEuEuIuOuUcHID LETTER AnBAnDAnGAnHAnInKAnLAnMAnNAoGAnPAnRAnSA",
   "nTAnUnWAnYAgVOWEL SIGN IrUcILDING CONSTRUCTIONcLLETg OPERATOReHORNi WITH SOUND WAVESeSEYE",
   "cRRITOcSd STOPdT IN SILHOUETTEeS IN SILHOUETTEcTTERgFLYbYTE ORDER MARK",
   "cZANTINE MUSICAL SYMBOL AGOGI ARGI+OTERI(GORGI,OTERI(MESI*TRIA(POLI ARGI.GORGI!NATRICHISMA",
   "#TIKENOKYLISMA*MA!PESO EKFONITIKON)XO NEO#LI#ODERMA ARCHAION+NEO$STROFOI SYNDESMOS NEO",
   ".TELOUS ICHIMATOS+S, DIPLI.NEO$THEMA!RGON%SYNTHETON#KTIKO DI*GA*KE*NI*PA*VOU*ZOzCHAMILI(ON",
   "#OREVMA ARCHAION+NEO#ROA KLITON(SPATHI(ZYGOSzDASEIA!IARGON$STOLI APLI MEGALI<IKRI+DIPLI",
   "+THESEOS#ESIS APLI DYO DODEKATA)DIGRAMMOS EX DODEKATA)MONOGRAMMOS TESSERA DODEKATA",
   ")TETARTIMORION*RIGRAMMOS OKTO DODEKATA,TIMORION#FTOGGOS OU#GORGON* PARESTIGMENON ARISTERA ANO",
   "~ISTERA KATO_DEXIA$RAMMA GG#PLI& ARCHAION!YOzEKSTREPTON!LAFRON!NARXIS KAI FTHORA VOU#DOFONON",
   "!PEGERMA!TERON ARGOSYNTHETON)PARAKALESMA!XO EKFONITIKONzFANEROSIS DIFONIAS,MONOFONIAS",
   ",TETRAFONIAS!HTORA SKLIRON CHROMA VASIS!THORA ARCHAION< DEYTEROU ICHOU)DIATONIKI DI>KE>NANA",
   "?I ANO[KATO>PA>ZO)ENARMONIOS ANTIFONIA)I YFESIS TETARTIMORION)MALAKON CHROMA DIFONIAS",
   "^MONOFONIAS)NAOS ICHOS*ENANO)SKLIRON CHROMA SYNAFI^VASIS<DIATONON DIzGENIKI DIESIS)YFESIS",
   "!ORGON ARCHAION)NEO ANO.KATO)PARESTIGMENON ARISTERA]DEXIA&SYNTHETON$THMIKON N APLOUN:DIPLOUN",
   "!RONTHISMATAzICHADIN!MIDIARGON$FONON%THORA*ON!SAKIA TELOUS ICHIMATOS#ON ARCHAION&NEO",
   "zKATAVA TROMIKON(SMA$HISTI!ENTIMA ARCHAION*NEO ANO/KATO/MESO)TA+ ARCHAION,NEO ANO;KATO;MESO",
   "!LASMA( ANO)KATO!ONTEVMA* ALLO#RONIS#UFISMA!RATIMA ALLO+RCHAION*NEO)TA(OKOUFISMA)YPORROON",
   "#EMASTI!YLISMAzLEIMMA DYO CHRONON)ENOS CHRONOU)IMISEOS CHRONOU)TESSARON CHRONON*RION CHRONON",
   "#MOI!YGISMAzMARTYRIA ALLI DEYTEROS ICHOS;PROTOS ICHOS+DEYTEROS ICHOS+LEGETOS ICHOS",
   "+PLAGIOS ICHOS>TETARTOS ICHOS,ROTOS ICHOS;VARYS ICHOS+TETARTOS ICHOS?LEGETOS ICHOS,RIFONIAS",
   "/TOS ICHOS+VARYS ICHOS!IKRON ISONzNANAzOLIGON ARCHAION)NEO!MALON!XEIA DIPLI(EKFONITIKON(NEO",
   "&I ARCHAION!YRANISMA ARCHAION,NEOzPARAKALESMA ARCHAION/NEO&LITIKI. ARCHAION/NEO$ICHON!ELASTON",
   "* NEO#RISPOMENI#TASMA&TI(OKOUFISMA!IASMA ARCHAION)NEO!SIFISTOLYGISMA*N+ NEO*PARAKALESMA",
   "*SYNAGMA$LI%ONzRAPISMA!EVMAzSAXIMATA!EISMA( NEO!IMANSIS ARSEOS< DISIMOU=TETRASIMOU>RISIMOU",
   "+THESEOS= DISIMOU>TETRASIMOU?RISIMOU!TAVROS) APODEXIA#IGMA#RAGGISMATA!YNAGMA ARCHAION",
   "*META STAVROU*NEO$EVMA#RMA&TIKIzTELEIA#SSERA#TRAPLI!HEMA& APLOUN&TISMOS ESO:XO$S KAI APOTHES",
   "#ITA!INAGMA!RIA$GORGON$PLI#OMIKOLYGISMA)N ALLO,RCHAION+NEO)PARAKALESMA*SIFISTON)SYNAGMA",
   "zVAREIA DIPLI)EKFONITIKON)NEO(I ARCHAION#THYzXIRON KLASMAzYFEN ANO&KATO$SIS APLI DYO DODEKATA",
   ")DIGRAMMOS EX DODEKATA)MONOGRAMMOS TESSERA DODEKATA)TRIGRAMMOS OKTO DODEKATA,TIMORION!POKRISIS",
   "+ DIPLI$RROI#SILIaCACTUScDA UNAdUCEUScLENDARdL ME HANDcMERAg WITH FLASHdPINGcN",
   "dADIAN SYLLABICS AuAvIvYuIvVILIK BuNuTHAPASCAN M&SuYtBEAVER DENE L(RuIBLE-CREE YuLACKFOOT A%E",
   "%I%KA&E&I&O%NA&E&I&O%O%S%W&A&E&I&OtCuAvAwIvRRIER CHA%E&E%I%O%U#DEE%NE GEE&TAL S$I$LA%E&E%I%O%U",
   "$ZA%E&E%I%O%U#EE#GA%A$E%E$HA%E&E%I%O%U$I$O$U$WA%U#H$EE$I$WA%E&E%I%O%U#I$NITIAL Z#JA$E%E$I$JA%E",
   "&E%I%O%U$O$U$WA#KHA%E&E%I%O%U$K%A%E&E%I%O%U#LA$E%E$HA%E&E%I%O%U$I$O$U#MA$E%E$I$O$U#NA$E%E$G$I",
   "$O$U#P$A$E%E$I$O$U#RA$E%E$I$O$U#SA$E%E$H%A%E&E%I%O%U$I$O$U#THA%E&E%I%O%U$LA%E&E%HA&E(E&I&O&U%I",
   "%O%U$SA%E&E%I%O%U$TA%E&E%I%O%SA&E(E&I&O&U%U#WA$E%E$I$O$U#YA$E%E$I$O$U#Z$A$E%E$I$O$UuEuHI SIGN",
   "uIvIuOvOuWAwAvEvIwIvOwOtEuASTERN WuNtFuAvAwIuEuIvIvNAL ACUTEzBOTTOM HALF RINGzDOUBLE ACUTE",
   ")SHORT VERTICAL STROKES#WN TACKzGRAVEzMIDDLE DOTzPLUSzRAISED DOT!IGHT HALF RING#NG",
   "zSHORT HORIZONTAL STROKE!MALL RINGzTOP HALF RINGuOvOuULL STOPuWAAtGLOTTAL STOPtHKuYPHENtIuIuN",
   "tKuAvAwIvYuEuIvIuOvOuWvAwAwYvEvIwIvOwOtLuAvAwIvYuEuHvAwAvIwIvOwOuIvIuOvOuWAwAvEvIwIvOwOtMuAvA",
   "wIvYuEvDIAL L!RuHuIvIuOvOwSE-CREE SKuWAwAvEvIwIvOwOtNu-CREE THE$I%IuAvAwIvSKAPI CWAA#KWAA#MWAA",
   "#NWAA#S-W$CWA$KW&A$PWA$TWA$WAA#TWAA#WAA$OO#YWAAvTTILIK HA&A%I&I%O&O$SHRA)A(I)I(O)OvYuEuGvAwAxI",
   "wIvIwIvOwOuHuIvIuNGwAxAwIxIwOxOuOvOvYuUNAVIK H$A%A$E$I%I$O%OyUT HuWAwAvEvIwIvOwOtOuJIBWAY C#K",
   "#M#N$WI&I%O&O#P#S$H#TuNuOuYtPuAvAwIvYuEuIvIuOvOvYuWAwAvEvIwIvOwOwYtQuAvAwIvIuIvIuOvOtR",
   "u-CREE RE#WEuAvAwIvYuEuIvIuOvOuWAwAvEEvIwIvOwOtSuAvAwIvYwISI HA#E#I#O$O!JI#U$U!M!SHA$E$I$O%O",
   "$WE!TH!YIuEuHvAwAwYvEvIwIvOwOwYvWAxAwEwIxIwOxOxYuIvIuOvOvUTH-SLAVEY KAH*EH*IH*OHvYuPAvEvIvOuW",
   "vAwAvEvIwIvOwOtTuAvAwIvYuEuHv-CREE TH%A&A%E%I&I%O&OvAwAvEvIwIvOwOvWAxAwEuIvIuLHAwEwIwOxOwWEuO",
   "vOuTAvEvHwAxAwEwIwOxOwWEvIvOuWAwAvEvIwIvOwOuYAvEvIvOtWAvAvYuEvST-CREE CWA)A(E(I)I(O)O%FWAA%KWA",
   ")A(E(I)I(O)O%L&A(A&E&O(O&WA)A(E(I)I(O)O%M&WA)A(E(I)I(O)O%NWA)A(E%P&WA)A(E(I)I(O)O%R&A&E&I&O",
   "&WAA%SHWA*A)E)I*I)O*O&WA)A(E(I)I(O)O%THWAA&WA)A(E(I)I(O)O%WA(A&E&I(I&O(O%Y&WA)A(E(I)I(O)O",
   "xERN WuIvIuOvOwDS-CREE FINAL TH&TH)A)E)I)O)WA+A*EE*I+I*O+OtYu-CREE COO!KOO!LOO!MOO!NOO!OO!POO",
   "#WAA!SOO!TOO!W!YOOuAvAwIvYuEuIvIuOvOvYuWAwAvEvIwIvOwOdCELg CHARACTERhTAGgLATION XfRdDLEeY",
   "dNED FOODdOEcPITULUMdRICORNcR SLIDINGdD FILE BOXfINDEXk DIVIDERSdE OFeTf INSERTION POINT",
   "dIAN LETTER Ap2oBoC-18q39oDp2oEp2oGp2oIpIoKp2oLpDq2oMpBq2q3q4oNpDpGpNoOoPp2oQoRpRoSpHq2pSpTq2",
   "oTpTq2oUpUqUr2r3rUoXdONeUSEL HORSEdP STREAMEReENTRY SAWdRIAGE RETURNeOTcSTLEcTd FACE",
   "i WITH TEARS OF JOYoWRY SMILEcUCASIAN ALBANIAN CITATION MARKtLETTER ALT#OR!BET!CAR$YN#HA%T$I",
   "$OY#YAW%Y!DAT#YAN#ZAY$YAY!EB#YN!FAM!GHEYS#IM!HEYT!INYA#RB#WN!JAYN#HOX!KAR#IW!LAN#YIT!MAQ!NOWC",
   "!ON!PEN#IWR!QAR$Y!RAT!SEYK#HA%K$OY!TAS#IWR#YAY!VEYZ!XEYN!YAYD#OWD!ZARL#HA$ILdTION SIGNbCH",
   "bEDI SIGNeLLAcLTIC CROSScNT SIGNeRE LINE SYMBOLgLINE LOW LINElOVERLINEcRESbGJbHAINSeR",
   "dKMA AU MARKhDANDAiIGIT EIGHTnFIVEoOURnNINEnONEnSEVENoIXnTHREEoWOnZEROiOUBLE DANDAhLETTER AA",
   "oBAApHAAoCAApHAAoDAApDAAqHAApHAAoEoGAApHAAoHAAoIoJAApHAAoKAApHAAoLAApHAAoMAAoNAApGAApNAApYAA",
   "oPAApHAAoRAAoSAAoTAApHAApTAAqHAAoUoVAAoWAAoYAApYAAhMAAYYAAhO MARKhQUESTION MARKhSECTION MARK",
   "iIGN ANUSVARAmCANDRABINDUmVISARGAhVIRAMAiOWEL SIGN AtAtItUsEtIsItIsOtIsUtU",
   "dM CONSONANT SIGN FINAL H!M!NGuLAuRAuWAuYAfDIGIT EIGHTlFIVEmOURlNINElONElSEVENmIXlTHREEmWO",
   "lZEROfLETTER AnImBAnBAnHAmCHAoHAmDAnDAnHAmEmFINAL CHsGsKsLsNtGsPsRsSSsTsYmGAnHAmHAmImJAnHAmKA",
   "nHAmLAmMAnUEmNAnGAoUEnHAoJAoUEnUEmOmPAnHAnPAmRAmSAnSAmTAnHAmUmVAmYAfPUNCTUATION DANDA",
   "sOUBLE DANDArSPIRALrTRIPLE DANDAfVOWEL SIGN AArIrUqEIqIrIqOrEqUrEdRACTER TABULATIONu SET",
   "vWITH JUSTIFICATIONlIEeT WITH DOWNWARDS TRENDlUPWARDS TRENDy AND YEN SIGNcECK MARKfER BOARD",
   "n FILLdERING MEGAPHONEeSE WEDGEdQUERED FLAGdROKEE LETTER AqDArErIrLArOrUrVqEqGArErIrOrUrVqHArE",
   "rIrNArOrUrVqIqKAqLArErIrOrUrVqMArErIrOrUrVqNAsHrErIrOrUrVqOqQUAsEsIsOsUsVqSrArErIrOrUrVqTArErI",
   "rLAsEsIsOsUsVrSAsEsIsOsUsVqUqVqWArErIrOrUrVqYArErIrOrUrVjSMALL LETTER AwDAxExIxLAxOxUxVwEwGAxE",
   "xIxOxUxVwHAxExIxNAxOxUxVwIwKAwLAxExIxOxUxVwMAxExIxOxUxVwNAyHxExIxOxUxVwOwQUAyEyIyOyUyVwSxAxExI",
   "xOxUxVwTAxExIxLAyEyIyOyUyVxSAyEyIyOyUyVwUwVwWAxExIxOxUxVwYAxExIxOxUxVeRIESfY BLOSSOMdSTNUT",
   "cI RHOdCKENdLDfREN CROSSINGdPMUNKdRONcOCOLATE BARdPSTICKSdRASMIAN LETTER ALEPHtYINsBETH",
   "sCURLED WAWsDALETHsGIMELsHEuTHsKAPHsLAMEDHsMEMsNUNsPEsRESHsSAMEKHtHINtMALL ALEPHsTAWsWAWsYODH",
   "sZAYINlNUMBER FOURsONEv HUNDREDsTENtHREEtWENTYuOcRISTMAS TREEcURCHbINEMA",
   "cRCLE DIVIDED BY HORIZONTAL BAR AND TOP HALF DIVIDED BY VERTICAL BAR",
   "hWITH ALL BUT UPPER LEFT QUADRANT BLACKmHORIZONTAL BARmLEFT HALF BLACKnOWER HALF BLACK",
   "mRIGHT HALF BLACKmSMALL CIRCLE TO THE RIGHTnUPERIMPOSED XmTWO HORIZONTAL STROKES TO THE RIGHT",
   "mUPPER HALF BLACKsRIGHT QUADRANT BLACKmVERTICAL FILLgD ANTICLOCKWISE ARROW",
   "v-ROTATED DIVISION SIGNjSTERISK OPERATORiBOLD XjULLETiC WITH OVERLAID BACKSLASHjCjD",
   "jROSS FORMEEu WITH FOUR DOTS!TWO DOTSoPOMMEEnING LANESiDASHjIGIT EIGHToFIVEpOURoNINEoONEoSEVEN",
   "pIXoTHREEpWOoZEROkVISION SIGNsLASHjOLLAR SIGN WITH OVERLAID BACKSLASHkT OPERATORiEQUALS",
   "iGREATER-THANiHANGUL CHIEUCHw AqIEUCu ApHIEUHu ApIEUNGu AvUpKHIEUKHw AqIYEOKv ApMIEUMu ApNIEUN",
   "u ApPHIEUPHw AqIEUPu ApRIEULu ApSIOSt ApTHIEUTHw AqIKEUTv AjEAVY WHITE RIGHTWARDS ARROW",
   "jORIZONTAL BAR WITH NOTCHjUMAN FIGUREiIDEOGRAPH ACCEPTtDVANTAGEtLLIANCEtTTENTIONsCENTRE",
   "tONGRATULATIONuPYuRRECTsEARTHtIGHTtNTERPRISEtXCELLENTsFEMALEtINANCIALuREuVEtOURsHAVEtIGHsITEM",
   "sKINDERGARTENtOTOsLABORtEFTtOWsMALEtEDICINEuTALtOONsNAMEtIGHTuNEsONEsPRINTsQUESTIONsRELIGION",
   "uSOURCEvTtIGHTsSCHOOLtECRETuVENtIXtOCIETYtPECIALtTOCKuUDYtUITABLEuNuPERVISEsTENtHREEtWOsWATER",
   "tOODjNFORMATION SOURCEjTALIC LATIN CAPITAL LETTER C.RiKATAKANA ArErHAsEsIsOsUrIrKAsEsIsOsUrMA",
   "sEsIsOsUrNAsEsIsOsUrOrRAsEsIsOsUrSAsEsIsOsUrTAsEsIsOsUrUrWAsEsIsOrYAsOsU",
   "jOREAN CHARACTER CHAMKOzJUEUIiLATIN CAPITAL LETTER A%B%C%D%E%F%G%H%I%J%K%L%M%N%O%P%Q%R%S%T%U%V",
   "%W%X%Y%ZoSMALL LETTER A#B#C#D#E#F#G#H#I#J#K#L#M#N#O#P#Q#R#S#T#U#V#W#X#Y#ZjESS-THANiMINUS",
   "jULTIPLICATION SIGN WITH CIRCUMFLEX ACCENTiNUMBER EIGHTEENuY ON BLACK SQUAREqLEVENpFIFTEENtY",
   "u ON BLACK SQUAREqORTYu EIGHTvFIVEwOURvNINEvON BLACK SQUARExEvSEVENwIXvTHREEwWOrURTEEN",
   "pNINETEENpSEVENTEENvY ON BLACK SQUAREqIXTEENtY ON BLACK SQUAREpTENs ON BLACK SQUAREqHIRTEENuY",
   "v EIGHTwFIVExOURwNINEwON BLACK SQUAREyEwSEVENxIXwTHREExWOqWELVEsNTYv EIGHTwFIVExOURwNINE",
   "wON BLACK SQUAREyEwSEVENxIXwTHREExWOiOPEN CENTRE EIGHT POINTED STARiPARALLELjERPENDICULARjLUS",
   "jOSTAL MARKiREVERSE SOLIDUSjING OPERATORiSQUAREiTIMESjRIANGLEq DOWNiVERTICAL BARiWHITE BULLET",
   "oSTARjZiXiZERO WITH SLASHeULATION FUNCTIONfMFLEX ACCENTfS TENTcTYSCAPEj AT DUSK",
   "bJK COMPATIBILITY IDEOGRAPH-2F800)1)2)3)4)5)6)7)8)9)A)B)C)D)E)F(10)1)2)3)4)5)6)7)8)9)A)B)C)D)E",
   ")F(20)1)2)3)4)5)6)7)8)9)A)B)C)D)E)F(30)1)2)3)4)5)6)7)8)9)A)B)C)D)E)F(40)1)2)3)4)5)6)7)8)9)A)B",
   ")C)D)E)F(50)1)2)3)4)5)6)7)8)9)A)B)C)D)E)F(60)1)2)3)4)5)6)7)8)9)A)B)C)D)E)F(70)1)2)3)4)5)6)7)8",
   ")9)A)B)C)D)E)F(80)1)2)3)4)5)6)7)8)9)A)B)C)D)E)F(90)1)2)3)4)5)6)7)8)9)A)B)C)D)E)F(A0)1)2)3)4)5",
   ")6)7)8)9)A)B)C)D)E)F(B0)1)2)3)4)5)6)7)8)9)A)B)C)D)E)F(C0)1)2)3)4)5)6)7)8)9)A)B)C)D)E)F(D0)1)2",
   ")3)4)5)6)7)8)9)A)B)C)D)E)F(E0)1)2)3)4)5)6)7)8)9)A)B)C)D)E)F(F0)1)2)3)4)5)6)7)8)9)A)B)C)D)E)F",
   "&900)1)2)3)4)5)6)7)8)9)A)B)C)D)E)F(10)1)2)3)4)5)6)7)8)9)A)B)C)D)E)F(20)1)2)3)4)5)6)7)8)9)A)B)C",
   ")D)E)F(30)1)2)3)4)5)6)7)8)9)A)B)C)D)E)F(40)1)2)3)4)5)6)7)8)9)A)B)C)D)E)F(50)1)2)3)4)5)6)7)8)9",
   ")A)B)C)D)E)F(60)1)2)3)4)5)6)7)8)9)A)B)C)D)E)F(70)1)2)3)4)5)6)7)8)9)A)B)C)D)E)F(80)1)2)3)4)5)6",
   ")7)8)9)A)B)C)D)E)F(90)1)2)3)4)5)6)7)8)9)A)B)C)D)E)F(A0)1)2)3)4)5)6)7)8)9)A)B)C)D)E)F(B0)1)2)3",
   ")4)5)6)7)8)9)A)B)C)D)E)F(C0)1)2)3)4)5)6)7)8)9)A)B)C)D)E)F(D0)1)2)3)4)5)6)7)8)9)A)B)C)D)E)F(E0",
   ")1)2)3)4)5)6)7)8)9)A)B)C)D)E)F(F0)1)2)3)4)5)6)7)8)9)A)B)C)D)E)F&A00)1)2)3)4)5)6)7)8)9)A)B)C)D",
   ")E)F(10)1)2)3)4)5)6)7)8)9)A)B)C)D$F900(1(2(3(4(5(6(7(8(9(A(B(C(D(E(F&10(1(2(3(4(5(6(7(8(9(A(B",
   "(C(D(E(F&20(1(2(3(4(5(6(7(8(9(A(B(C(D(E(F&30(1(2(3(4(5(6(7(8(9(A(B(C(D(E(F&40(1(2(3(4(5(6(7(8",
   "(9(A(B(C(D(E(F&50(1(2(3(4(5(6(7(8(9(A(B(C(D(E(F&60(1(2(3(4(5(6(7(8(9(A(B(C(D(E(F&70(1(2(3(4(5",
   "(6(7(8(9(A(B(C(D(E(F&80(1(2(3(4(5(6(7(8(9(A(B(C(D(E(F&90(1(2(3(4(5(6(7(8(9(A(B(C(D(E(F&A0(1(2",
   "(3(4(5(6(7(8(9(A(B(C(D(E(F&B0(1(2(3(4(5(6(7(8(9(A(B(C(D(E(F&C0(1(2(3(4(5(6(7(8(9(A(B(C(D(E(F",
   "&D0(1(2(3(4(5(6(7(8(9(A(B(C(D(E(F&E0(1(2(3(4(5(6(7(8(9(A(B(C(D(E(F&F0(1(2(3(4(5(6(7(8(9(A(B(C",
   "(D(E(F%A00(1(2(3(4(5(6(7(8(9(A(B(C(D(E(F&10(1(2(3(4(5(6(7(8(9(A(B(C(D(E(F&20(1(2(3(4(5(6(7(8(9",
   "(A(B(C(D(E(F&30(1(2(3(4(5(6(7(8(9(A(B(C(D(E(F&40(1(2(3(4(5(6(7(8(9(A(B(C(D(E(F&50(1(2(3(4(5(6",
   "(7(8(9(A(B(C(D(E(F&60(1(2(3(4(5(6(7(8(9(A(B(C(D&70(1(2(3(4(5(6(7(8(9(A(B(C(D(E(F&80(1(2(3(4(5",
   "(6(7(8(9(A(B(C(D(E(F&90(1(2(3(4(5(6(7(8(9(A(B(C(D(E(F&A0(1(2(3(4(5(6(7(8(9(A(B(C(D(E(F&B0(1(2",
   "(3(4(5(6(7(8(9(A(B(C(D(E(F&C0(1(2(3(4(5(6(7(8(9(A(B(C(D(E(F&D0(1(2(3(4(5(6(7(8(9",
   "eRADICAL BAMBOOnLUEnOLT OF CLOTHoNEoXnRUSH ONEsTWOmC-SIMPLIFIED BIRDzCARTzDRAGONzEAT!VENzFISH",
   "!LY!ROGzGATE!OLDzHORSEzLEAF!ONGzSALT!EE!HELL!ILK!PEECHzTANNED LEATHER!OOTH!URTLEzWINDnHOKEnITY",
   "oVILIANnLIFFoOTHESnOWmDEATHnIVINATIONnOGmEAT ONEqTHREErWOnWEnYEmFIREnOOTmGHOSTnRASS ONEsTHREE",
   "tWOmHANDnEADpRT ONEsTWOnORNmJ-SIMPLIFIED DRAGONzEVENzTOOTH!URTLEnADEmKNIFE ONEsTWOmLAME FOUR",
   "rONErTHREEsWOnONG ONErTWOmMEAToSHnOONoRTARoTHERoUND ONEsTWOmNET FOURqONEqTHREErWOmOLDmPAW ONE",
   "qTWOnERSONmRAINoMoPnEPEATmSEALoCOND ONEtTHREEuWOnHEEPnILKoMPLIFIED HALF TREE TRUNKyORNxWALK",
   "yHEATxYELLOWnMALL ONEsTWOnNAKEoOUT ONEsTWOnPIRIT ONEtTWOnUNmTABLEnHREADnIGERnURTLEmWALK ONE",
   "rTWOoTER ONEsTWOnEST ONErTWOeSTROKE BXGlDlHmGmPnWGmXWGmZnGnTnWoGnZoPoZpGlNlPmDmGmZlQlSmGmPmTmW",
   "nGnZmZnWGnZlTmNlWGlXGbLAMSHELL MOBILE PHONEdPPER BOARDfING HANDS SIGNdSSICAL BUILDING",
   "cEAR SCREEN SYMBOLcINKING BEER MUGSjGLASSESdPBOARDcOCK FACE EIGHT OCLOCKq-THIRTYmLEVEN OCLOCK",
   "r-THIRTYlFIVE OCLOCKp-THIRTYmOUR OCLOCKp-THIRTYlNINE OCLOCKp-THIRTYlONE OCLOCKo-THIRTY",
   "lSEVEN OCLOCKq-THIRTYmIX OCLOCKo-THIRTYlTEN OCLOCKo-THIRTYmHREE OCLOCKq-THIRTYmWELVE OCLOCK",
   "r-THIRTYnO OCLOCKo-THIRTYfWISE CLOSED CIRCLE ARROWlONTOUR INTEGRAL",
   "kDOWNWARDS AND UPWARDS OPEN CIRCLE ARROWSkGAPPED CIRCLE ARROWkINTEGRALkOPEN CIRCLE ARROW",
   "kRIGHT AND LEFT SEMICIRCLE ARROWSpWARDS AND LEFTWARDS OPEN CIRCLE ARROWS",
   "~OWS WITH CIRCLED ONE OVERLAYkTOP SEMICIRCLE ARROWlRIANGLE-HEADED OPEN CIRCLE ARROWdSE UP",
   "fD BOOKhINTERSECTION WITH SERIFShLOCK WITH KEYhMAILBOX WITH LOWERED FLAGuRAISED FLAGhSUBSET",
   "n OR EQUAL TOjPERSETp OR EQUAL TOhUMBRELLAiNION WITH SERIFSy AND SMASH PRODUCTdUD",
   "f WITH LIGHTNINGlRAINlSNOWlTORNADOdWN FACEbOATcCKROACHeTAIL GLASSdONUTcFFINcINcLLISION SYMBOL",
   "dONf EQUALSgSIGNcMBINING ACUTE ACCENTw BELOWqTONE MARKp-GRAVE-ACUTEqMACRON",
   "lLMOST EQUAL TO ABOVE!BELOWlNNUITY SYMBOLmTICLOCKWISE ARROW ABOVEyRING OVERLAYlSTERISK ABOVE",
   "tBELOWkBINDU BELOWlREVEp BELOWp-MACRONmIDGE ABOVErBELOWkCANDRABINDUmRONp BELOWlEDILLA",
   "lIRCUMFLEX ACCENT# BELOWlLOCKWISE ARROW ABOVEuRING OVERLAYlOMMA ABOVEv RIGHTqBELOW",
   "mNJOINING MACRON# BELOWlYRILLIC DASIA PNEUMATAtHUNDRED MILLIONS SIGN#THOUSANDS SIGNtKAVYKA",
   "tLETTER A!BE#IG YUS!CHE!DE#JERV!EF#L#M#N#R#S$-TE!FITA!GHE!HA$RD SIGN!I#E#OTIFIED A,BIG YUS,E",
   "!KA!LITTLE YUS!MONOGRAPH UK!O#MEGA!PE!SHA$CHA#OFT SIGN!TE#SE!U#KRAINIAN IE!VE!YAT#ERU#I#U!ZE",
   "#HEtMILLIONS SIGNtPALATALIZATIONvYEROKuOKRYTIEuSILI PNEUMATAtTEN MILLIONS SIGN",
   "uHOUSAND MILLIONS SIGNuITLOy LEFT HALFzRIGHT HALFtVZMETkDELETION MARKmVANAGARI DIGIT EIGHT",
   "#FIVE$OUR#NINE#ONE#SEVEN$IX#THREE$WO#ZEROvLETTER A$KA$NA$PA$RA$U$VIvSIGN AVAGRAHAlIAERESIS",
   "t BELOWt-RINGlOT ABOVEt LEFTuRIGHToBELOWt LEFTnTED ACUTE ACCENTrGRAVE ACCENTmUBLE ACUTE ACCENT",
   "rBREVEw BELOWrCIRCUMFLEX ABOVErGRAVE ACCENTrINVERTED BREVE( BELOWrLOW LINErMACRONx BELOW",
   "rOPEN MARK BELOWsVERLINErPARENTHESES ABOVEsLUS SIGN ABOVE#BELOWrRIGHTWARDS ARROW BELOW",
   "tNG BELOWrTILDEw LEFT HALFxRIGHT HALFrVERTICAL LINE ABOVE(BELOW!STROKE OVERLAY",
   "qD CIRCUMFLEX ACCENTmWN TACK BELOWoWARDS ARROWkENCLOSING CIRCLE! BACKSLASHuDIAMONDuKEYCAP",
   "uSCREENvQUAREuUPWARD POINTING TRIANGLElQUALS SIGN BELOWkFERMATAlOUR DOTS ABOVE",
   "kGLAGOLITIC LETTER AZU$BIG YUS%UKY$CHRIVI$DJERVI%OBRO$FITA%RITU$GLAGOLI$HERU$I%NITIAL IZHE",
   "%OTATED BIG YUS.SMALL YUS%ZHE$KAKO$LJUDIJE$MYSLITE$NASHI$ONU$POKOJI$RITSI$SHA&TA%LOVO%MALL YUS",
   "$TSI%VRIDO$UKU$VEDE$YATI%ERI(U&STU%O%U$ZEMLJA%HIVETElRANTHA DIGIT FIVEzOURyONEySIXyTHREEzWO",
   "yZEROsLETTER AzKAzNAzPAzVInPHEME JOINERnVE ACCENTw BELOWqTONE MARKp-ACUTE-GRAVEqMACRON",
   "mEEK DIALYTIKA TONOSqKORONISqMUSICAL PENTASEMEyTETRASEMEzRISEMEqPERISPOMENIqYPOGEGRAMMENI",
   "kHOMOTHETIC ABOVEmOK ABOVEmRNkINFINITYmVERTED BREVEy BELOWvIDGE BELOWtDOUBLE ARCH ABOVE(BELOW",
   "lS BELOWkKATAKANA-HIRAGANA SEMI-VOICED SOUND MARK$VOICED SOUND MARKmVYKA ABOVE LEFTxRIGHT",
   "kLATIN LETTER SMALL CAPITAL G/L/M/N/RqSMALL LETTER A& WITH DIAERESIS&E&LPHA&O&V%B&ETA%C",
   "& CEDILLA%D%E&SH&TH%F&LATTENED OPEN A ABOVE%G%H%I&NSULAR D/G/R/T%K%L& WITH DOUBLE MIDDLE TILDE",
   "&ONG S%M%N%O& WITH DIAERESIS.LIGHT CENTRALIZATION STROKE%P%R& BELOW(ROTUNDA%S&CHWA%T",
   "&URNED W BELOW%U& WITH DIAERESIS.LIGHT CENTRALIZATION STROKE%V%W& BELOW%X%ZlEFT ANGLE ABOVE",
   "vBELOWqRROW ABOVEvBELOWuHEAD ABOVEzBELOWpHALF RING ABOVEzBELOWrRPOON ABOVE",
   "pPARENTHESIS ABOVE LEFT#BELOW LEFTpRIGHT ARROW ABOVE#BELOWpTACK BELOWoWARDS ARROW OVERLAY",
   "uHARPOON WITH BARB DOWNWARDSlIGATURE LEFT HALF$ BELOWtRIGHT HALF% BELOW",
   "nHT CENTRALIZATION STROKE BELOWlONG DOUBLE SOLIDUS OVERLAYpSOLIDUS OVERLAYqTROKE OVERLAY",
   "pVERTICAL LINE OVERLAYmW LINEkMACRONq BELOWrLEFT HALF! BELOWrRIGHT HALF# BELOWq-ACUTErBREVE",
   "rGRAVElINUS SIGN BELOWkNOT TILDE ABOVElUMBER SIGN ABOVEkOGONEKq ABOVElLD PERMIC LETTER AN$DOI",
   "$NENOE$SII$ZATAlPEN MARK BELOWlVERLINEkPALATALIZED HOOK BELOWmRENTHESES ABOVEwBELOWwOVERLAY",
   "lLUS SIGN ABOVEuBELOWkRETROFLEX HOOK BELOWmVERSE SOLIDUS OVERLAYrD COMMA ABOVE",
   "lIGHT ARROW ABOVEwBELOWvHEAD ABOVE#ND DOWN ARROWHEAD BELOW&UP ARROWHEAD BELOW!BELOW",
   "qHALF RING ABOVE!BELOWsRPOON ABOVEqPARENTHESIS ABOVE RIGHT$BELOW RIGHTqTACK BELOW",
   "pWARDS HARPOON WITH BARB DOWNWARDSmNG ABOVEpBELOWpOVERLAYkSEAGULL BELOWlHORT SOLIDUS OVERLAY",
   "rTROKE OVERLAYqVERTICAL LINE OVERLAYlNAKE BELOWlQUARE BELOWsRACKETS ABOVE",
   "lTRONG CENTRALIZATION STROKE BELOWlUSPENSION MARKkTHREE DOTS ABOVElILDEp BELOWqLEFT HALF BELOW",
   "qOVERLAYqRIGHT HALF BELOWlRIPLE ACUTE ACCENTrDOTrUNDERDOTlURNED COMMA ABOVEkUP TACK ABOVE",
   "sBELOWmWARDS ARROW BELOWlR ABOVElS ABOVEkVERTICAL LINE ABOVEyBELOWtTILDEkWIDE BRIDGE ABOVE",
   "pINVERTED BRIDGE BELOWmGGLY LINE BELOWkX ABOVEmBELOWl-X BELOWkZIGZAG ABOVErBELOWdETdMA",
   "eERCIAL ATlMINUS SIGNdPASSeLEMENTeOSITION SYMBOLeRESSIONcNFETTI BALLeOUNDED FACEeUSED FACE",
   "dGRUENT WITH DOT ABOVEdICAL TAPERdJUNCTIONdSTRUCTION SIGNnWORKERdTAINS AS MEMBER",
   "mNORMAL SUBGROUP# OR EQUAL TOjWITH LONG HORIZONTAL STROKEoOVERBAR",
   "oVERTICAL BAR AT END OF HORIZONTAL STROKEeINUOUS UNDERLINE SYMBOLeOUR INTEGRALeROL KNOBS",
   "iSEQUENCE INTRODUCERdVENIENCE STOREcOKED RICEeIEfNGcPTIC CAPITAL LETTER AKHMIMIC KHEIxLFA",
   "wBOHAIRIC KHEIwCROSSED SHEIyYPTOGRAMMIC EIE.GANGIA.NI.SHEIwDALDAxEIxIALECT-P ALEF)HORI)KAPA)NI",
   "wEIEwFEIxIwGAMMAyNGIAwHATExORIwIAUDAwKAPAxHEIyIxSIwL-SHAPED HAxAULAwMIwNIwOxLD COPTIC AIN*DJA",
   "*ESH*GANGIA*HA,T+EI+ORI*OOU*SHEI,IMA!NUBIAN NGI+YI*SHIMA*WAUxOUwPIxSIwROwSAMPIxHEIyIMAxIMAxOU",
   "wTAUxHETHEwUAwVIDAwZATAiOMBINING NI ABOVErSPIRITUS ASPER!LENIShEPACT DIGIT EIGHTtFIVEuOURtNINE",
   "tONEtSEVENuIXtTHREEuWOnNUMBER EIGHT HUNDREDzYuFIFTYwVE HUNDREDvORTYwUR HUNDREDuNINE HUNDREDyTY",
   "uONE HUNDREDuSEVEN HUNDREDzTYvIX HUNDREDxTYuTENvHIRTYwREE HUNDREDvWENTYwO HUNDRED",
   "nTHOUSANDS MARKhFRACTION ONE HALFiULL STOPhMORPHOLOGICAL DIVIDER",
   "hOLD NUBIAN DIRECT QUESTION MARKsFULL STOPsINDIRECT QUESTION MARKsVERSE DIVIDER",
   "hSMALL LETTER AKHMIMIC KHEIvLFAuBOHAIRIC KHEIuCROSSED SHEIwYPTOGRAMMIC EIE+GANGIA+NI+SHEI",
   "uDALDAvEIvIALECT-P ALEF&HORI&KAPA&NIuEIEuFEIvIuGAMMAwNGIAuHATEvORIuIAUDAuKAPAvHEIwIvSI",
   "uL-SHAPED HAvAULAuMIuNIuOvLD COPTIC AIN(DJA(ESH(GANGIA(HA*T)EI)ORI(OOU(SHEI*IMAyNUBIAN NGI)YI",
   "(SHIMA(WAUvOUuPIvSIuROuSAMPIvHEIwIMAvIMAvOUuTAUvHETHEuUAuVIDAuZATAiYMBOL KAIpHI ROoMI ROoPI RO",
   "oSHIMA SIMApTAUROSoTAU ROdYLEFT SYMBOLeRIGHT SIGNcRALdNISH VERSE DIVIDERdRESPONDS TO",
   "cUCH AND LAMPdNTERBOREhSINKfING ROD TENS DIGIT EIGHTyFIVEzOURyNINEyONEySEVENzIXyTHREEzWO",
   "nUNIT DIGIT EIGHTyFIVEzOURyNINEyONEySEVENzIXyTHREEzWOdPLE WITH HEARTcWd FACEbRcABcEDIT CARD",
   "dSCENT MOONcICKETh BAT AND BALLcOCODILEdISSANTdSS MARKgOF JERUSALEMjLORRAINE",
   "gPATTY WITH LEFT CROSSBARrRIGHT CROSSBARhOMMEEm WITH HALF-CIRCLE BELOWfED FLAGS",
   "iNEGATIVE SQUARED LATIN CAPITAL LETTER PiSWORDSfING LANESdWNcUTCHdZEIRO SIGNcYING CAT FACE",
   "hFACEdSTAL BALLbSIbUBE ROOTcCUMBERcNEIFORM NUMERIC SIGN EIGHT ASH%DISH%GESH2%SHAR2%U",
   "& VARIANT FORM%VARIANT FORM USSU]3yLAMITE FIFTY)ORTY(ONE THIRD(TWO THIRDSxFIVE ASH( TENU$BAN2",
   ") VARIANT FORM%URU$DISH$GESH2)U$SHAR2)U%IXTHS DISH$U% VARIANT FORMyOUR ASH( TENU$BAN2",
   ") VARIANT FORM%URU$DISH$GESH2)U$SHAR2)U$U% VARIANT FORM$VARIANT FORM LIMMU] A^B]4xNIGIDAESH",
   "%MINzNE ASH$DISH$GESH2$SHAR2$U% VARIANT FORM$VARIANT FORM ILIMMU^ A^3^4",
   "xOLD ASSYRIAN ONE QUARTER<SIXTHyNE BAN2$URU#EIGHTH ASH$SHE3#GESH2(U#HALF GUR#QUARTER ASH,GUR",
   "#SHARU#THIRD DISH*VARIANT FORM AxSEVEN ASH%DISH%GESH2%SHAR2%U& VARIANT FORM",
   "%VARIANT FORM IMIN A^B]3yHAR2 TIMES GAL PLUS DISH@MINyIX ASH& TENU#DISH#GESH2#SHAR2#U",
   "$ VARIANT FORM#VARIANT FORM ASH9xTHREE ASH) TENU%BAN2&URU* VARIANT FORM%DISH%GESH2*U%SHAR2",
   "+ VARIANT FORM*U+ VARIANT FORM%VARIANT FORM ESH16[21yWO ASH& TENU#BAN2$URU#ESHE3#GESH2(U#SHAR2",
   "(U#THIRDS DISH+VARIANT FORM AkPUNCTUATION SIGN DIAGONAL COLON.QUADCOLON.TRICOLON",
   "#OLD ASSYRIAN WORD DIVIDER#VERTICAL COLONkSIGN Aq TIMES AxBADxGAN2 TENUxHAxIGIxLAGAR GUNUxMUSH",
   "xSAGq2qBr GUNUsTIMES ASH2yDUN3 GUNUyGAL!N2 TENUyHAyIGI GUNUzMINyLAGAByNUN# TENUySHESH!U2",
   "yU PLUS U PLUS Ur2s TIMES AzBALAGzGAN2 TENUzME PLUS ENzSHA3zTAK4qDr TIMES ESH2qKr TIMES ERIN2",
   "ySHITA PLUS GISHqLr TIMES ALyDIM2yGISHyHAyKAD3zIySHEyUSHrANrEPHqMARt TIMES KUG!SHEqNr OVER AN",
   "sPLUS NAGA OPPOSING AN PLUS NAGA$SQUAREDsTHREE TIMESrSHEqPINqRADt TIMES KURrKABqSAL2rH",
   "s KABA TENUtOVER ASH OVER ASH. CROSSING ASH OVER ASH OVER ASH",
   "$TUG2 OVER TUG2 TUG2 OVER TUG2 PAPtZIDA TENUs2sGABpBArDs TIMES DISH TENUrG3rHAR2v TIMES AB2$NI",
   "$ZArLs OVER BALsAGrRsA2qIr TIMES AyGARyIGI GUNUqUr CROSSING BUsOVER BU AB!TIMES NA2!UNrLUG",
   "u OVER BULUGrRs2pDAr TIMES TAK4rGs KISIM5 TIMES A PLUS MASH*MAR)BALAG*I)GA+ PLUS MASH*I+R2*UD",
   ")HA)IR+ PLUS LU)KAK)LA*U+ PLUS MASH2+M)NE)PAP PLUS PAP)SI)TAK4)U2 PLUS GIR2<MASH*SHtTIMES KUR",
   "s3rMrRsA3t4qIrBrMs TIMES IGIzSHEzU U Us2t TIMES UDrNs KASKAL U GUNU DISHrSHt PLUS SHUqUr GUNU",
   "sOVER DUsSHESHIGrBs TIMES ESH2zSHEs2rGs TIMES ANSHE!SH$ AT LEFTzDIN!UNzERIN2zGA!I#R2 GUNU#SH",
   "zHA!IzIGI GUNUzKASKAL!UR#SHU2( PLUS KASKALzLAK-020#M$ TIMES KUR!UH PLUS GISHzMASH!ES!IzNIzPI",
   "zSHE!I GUNUsUDrHrNs3t GUNUy GUNUs4rR2pEq OVER E NUN OVER NUNrTIMES PAPq2",
   "r TIMES A PLUS HA PLUS DAyGARyKURyMIyPAPySALzHEyUqDINqGIRqLqNr CROSSING ENsOPPOSING ENsSQUARED",
   "sTIMES GAN2$ TENUyMEqRENrIN2u XqSH2t CROSSING ESH2qZENt SHESHIG TIMES ASH+HI+IGI GUNU+LA.L+ME",
   ".S+SUuTIMES A# PLUS LAL. TIMES LAL#N!BAD!DUN3 GUNU, GUNU!GUD!HA$ GUNU!IGI GUNU!KASKAL) SQUARED",
   "#U3!LA$L TIMES LAL#I#U!SHE#U!U2#DpGAr GUNUr2s OVER GA2tTIMES A PLUS DA PLUS HA)HA)IGI",
   "!B2 TENU PLUS TAB!N# PLUS KAK PLUS A!SH$2% PLUS GALzBAD#HAR2#R PLUS RA!UR$ PLUS RAzDA!I#M GUNU",
   "%TIMES SHE!UB#G TIMES IGI GUNU,KASKALzEL# PLUS LA!N# TIMES GAN2 TENU!RENzGA#N2 TENU#R$ PLUS DI",
   "+NE!I#4$ PLUS A#R2 PLUS SUzHA PLUS A*LU PLUS ESH2#L$ PLUS LA!I PLUS LI!UB2zIGI GUNU",
   "!SH PLUS HU PLUS ASHzKAK#SKAL!ID$ PLUS LAL!U3 PLUS AN#SHU2 PLUS KASKALzLA#M$ TIMES KUR!UH",
   "zME PLUS EN!I!USHzNE# PLUS E2*GI!UN$ OVER NUNzPAzSAL#R!HE$ PLUS TUR#ID$M!UMzTAK4zU!D# PLUS DU",
   "zZIZ2rBAt CROSSING GABAuROTATED NINETY DEGREESrDs OVER GAD GAR OVER GARrL",
   "s GAD OVER GAD GAR OVER GARsAMrMrNs2t CROSSING GAN2uOVER GAN2uTENUrRs3rSHANqE22rSHTIN",
   "w TIMES KUR%UqIr CROSSING GIsTIMES EyUr4s CROSSING GI4tOVER GI4rDIMrGrR2t GUNUs3",
   "t TIMES A PLUS IGI!GAN2 TENU!IGI!LU PLUS IGI!PArSALsHt CROSSING GISHuTENUvIMES BAD",
   "!GISH CROSSING GISH!TAK4qUr CROSSING GUr2s GUNUtTIMES IGI GUNUzKAK$ TIMES IGI GUNUzNUN",
   "zSAL PLUS TUG2rDs OVER GUD LUGALtPLUS GISH TIMES TAK4tTIMES A PLUS KURzKURrLrMs TIMES SHErRs7",
   "sUNtSHpHAr GUNUsTENUw GUNUrLqIr TIMES ASH# OVER HI TIMES ASH#2yBADyDISHyGADyKINyNUNySHEyUqUrB2",
   "t TIMES AN!HAL!KASKAL!LISH!UDrL2rSHpIq AqBqDIMt OVER IDIM BUR&SQUAREDqGrIs DIBtGUNU",
   "tOVER IGI SHIR OVER SHIR UD OVER UDtRIqLr TIMES GAN2 TENUr2qMr CROSSING IMsOPPOSING IMsSQUARED",
   "sTIMES TAK4rINqNqRqSHpKAr TIMES AzD! PLUS KU3zNSHEzSH2#3yBAD!LAG!RzIzUyERIN2zSH2yGA!L!N2 TENU",
   "!R# PLUS SHA3 PLUS AzI!R2!SH$ CROSSING GISH%PLUS SARzU!D!R7yHI TIMES ASH2yIGIzMyKA!KzI!DyLIzU",
   "!MyME! PLUS DU)GI)TEzI! PLUS NUNUZyNEzUNyPAzIyRUySA!RzHA!E!ID!U#LzIGzUHURyTARzUyUz U Uz2zD",
   "zMUM TIMES PAzR!2zSHyZIr2s CROSSING KA2rBrD2s3s4s5t OVER KAD5rKs TIMES IGI GUNUrL",
   "s CROSSING KALtTIMES BADrM2s4rP ELAMITErSKALv LAGAB TIMES U OVER LAGAB TIMES U",
   "wOVER KASKAL LAGAB TIMES U OVER LAGAB TIMES UqESH2qIr TIMES BADyUzDrDrNrSALsHsIM5v OVER KISIM5",
   "qUr OVER HI TIMES ASH2 KU OVER HI TIMES ASH2r3r4s VARIANT FORMr7rLs GUNUrNrRs OPPOSING KUR",
   "rSHU2qWU318pLArGABu SQUAREDvTIMES A$ PLUS DA PLUS HA+GAR+LAL$L$N$SH ZIDA TENU#BAD$I#DAR#EN#GA",
   "%R$I$UD& PLUS GUD#HA%L$I TIMES NUN#IGI GUNU$M% PLUS HA,LU#KI%N$U3%L& PLUS HI PLUS A#LAGAB$ISH",
   "$U%L#ME% PLUS EN$USH#NE#SHE PLUS SUM%ITA PLUS GISH PLUS ERIN2?TENU%U2( PLUS SHU2$UM#TAG%K4",
   "$E PLUS A PLUS SU PLUS NA#U$ PLUS A+U PLUS U$2 PLUS ASH$D$SH#ZU OVER ZUtRu GUNU",
   "z OVER LAGAR GUNU SHEvTIMES SHE& PLUS SUMrHSHUrK-003u21v5u30u50v1u62u79 OVER LAK-079 GUNUu80",
   "v1 OVER LAK-081u92t130u42t210v9u20v5v8u38u65v6t343v7v8u83v4u90t441v9w TIMES GU%IGI",
   "%PAP PLUS LU3:PAP PLUS LU3%U2 PLUS BAu50v7u70u83u90v2v3v5t550t608u17w TIMES ASH%BAD",
   "%DUN3 GUNU GUNU%KU3%LA%TAR&E%U2&D&RUDAu36u48w TIMES DUB%GA%IGI) GUNU%NI%PAP PLUS PAP PLUS LU3",
   "%SHESH PLUS KI%UD&RUDAt724u49rLs TIMES LALrMs TIMES KUR$ PLUS RUqIrLrMMU2rSHqUr TIMES BADr2",
   "s CROSSING LU2tGUNU TIMES ASHtOPPOSING LU2tSHESHIG! TIMES BADuQUAREDtTENUuIMES ALzBADzDISH",
   "zESH2% PLUS LAL&TENUzGAN2 TENUzHAL!I TIMES BADzIMzKAD2$3% PLUS ASH!IzLA PLUS ASH#GAB",
   "zME PLUS ENzNE!UzPAP$ PLUS PAP PLUS LU3zSHU!I PLUS ASH#K2 PLUS BUzTAK4!UG2r3rGAL",
   "u OPPOSING LUGALwVER LUGALvSHESHIGrHrLrMs OVER LUM# GAR OVER GARpMAr GUNUsTIMES TAK4r2rHrRrSH",
   "t2qErSsHqIr PLUS ZA7rNqUr OVER MUrGs GUNUrNSUBrRGU2rSHt CROSSING MUSHuOVER MUSH",
   "% TIMES A PLUS NA.GA.KAKuTIMES A!KUR!ZAt3u GUNUvTIMES A$ PLUS DI#DI#ZApNAr2r4rGAt INVERTED",
   "uOPPOSING NAGAuTIMES SHU TENUtRrMs NUTILLUs2qEr SHESHIGsTIMES AyUDqIr TIMES Er2rM",
   "s TIMES GAN2 TENU#R PLUS GAN2 TENUrNs9sDA2v TIMES AN%SH( PLUS ASH$BAL$DIM GUNU$GI&SH%UD&L$HI",
   "$KESH2$LAK-050$MASH%E PLUS GAN2 TENU$NE%UN$PAP PLUS PAP$SHE( PLUS A AN:SH< PLUS ASH$U% PLUS U",
   "%2 PLUS ASH%RUDA%SHrSAGqUr11t OVER NU11 BUR OVER BURuROTATED NINETY DEGREESuTENUrN",
   "s CROSSING NUN( LAGAR OVER LAGARtLAGAR TIMES GAR(MASH(SAL+ OVER NUN LAGAR TIMES SAL(USH",
   "tOVER NUNtTENUsUZu AB2 TIMES ASHGAB(BI(DUG(GUD(IGI GUNU(KAD3(LA(NE(SILA3(U2vKISIM5 TIMES BI. U",
   "pPArDrNrPqESH2u ASTERISKqIr CROSSING PIsTIMES AzByBIzUyEyIzByUz2rR2sIGu OPPOSING PIRIG",
   "vTIMES KAL#UD#ZApRArBqIqUpSArGs GUNUx TIMES HAtNUTILLUtOVER SAGtTIMES AzDU#BzENzHAzIGI GUNU",
   "zKAK!URzLUMzMIzNUNzSAL!HE AT LEFT#IDzTAB#K4zU2!B!M!R!SHrLs LAGAB TIMES ASH2rNGA2rRqHAs3",
   "t TIMES A!BAD!GISH!NE!SHU2!TUR!U# PLUS As6t TENUsB6sR2rEs HUtOVER SHE",
   "# GAD OVER GAD GAR OVER GAR$TAB OVER TAB GAR OVER GARtPLUS HUB2yNAM2ySARsG9sNsSHu2uLAMrID",
   "t TIMES A!IMsMt TIMES A!BAL#ULUG!DIN!GAR!IGI% GUNU!KUSHU2!LUL!MUG!SALsNIGsR",
   "t OVER SHIR BUR OVER BURuTENUsTArUs OVER INVERTED SHUs2t PLUS DUG TIMES NIzE2 TIMES ANsBURqI",
   "r GUNUsTIMES TAK4rGs4t OVER SIG4 SHU2rK2rLA3qUr OVER SUrDs2rHURrMsASHrRs9pTAr ASTERISKsGUNU",
   "sTIMES HIyMIrBs OVER TAB NI OVER NI DISH OVER DISHtSQUAREDrGs TIMES BIzGUDzSHE#UzTUG2zUDrK4",
   "t PLUS SAGrRqEr GUNUqIr TENUr2rLrRs OVER TIR# GAD OVER GAD GAR OVER GARtTIMES TAK4qUrG2rKrM",
   "s TIMES GAN2 TENUzTHREE DISHrRs OVER TUR ZA OVER ZApUq GUDrOVER U PA OVER PA GAR OVER GAR",
   "ySUR OVER SURyU REVERSED OVER U REVERSEDrUs Uq2qBqDr GUNUsKUSHU2sSHESHIGz TIMES BADsTIMES BAD",
   "yMIyU PLUS U PLUS U; GUNUrUGqMr TIMES LAGAByME! PLUS DAySHA3yUrBINrUMt TIMES KASKAL!PAqNr GUNU",
   "qRr CROSSING URsSHESHIGr2s INVERTEDtTIMES A PLUS HA)NA!LzHAzNUNzU2# PLUS ASH*BI!Dr4rIs3rU",
   "s TIMES A!SHGABzBARzDARA3!UNzGA#L#N2 TENU#R!UzHAzIGI!M!SHzKIzLAK-668!U3#MzMINzPAzSHE!IG4zTU",
   "zU PLUS GUD!D!RUDAsDAu TIMES UqSHs TIMES AzKU#RzTAK4s2sUMXsXqTUKIqZ3s TIMES KASKALrUpZA",
   "r SQUARED TIMES KURsTENUr7rGrMXqE2qIr OVER ZIr3rBs KABA TENUrGrZ2qUr OVER ZU PLUS SARr5",
   "s TIMES AzTHREE DISH TENUrBURrMcP ON BLACK SQUAREeWITH STRAWdCAKEdIDOcRLING STONE",
   "eY BRACKET EXTENSIONgLOGICAL ANDoORiOPdRENCY EXCHANGEjSIGNeY AND RICE",
   "dVED STEM PARAGRAPH SIGN ORNAMENTcSTARDeOMScT OF MEATbYCLONEcLINDRICITYcPRIOT SYLLABLE ArErI",
   "rJAsOrKAsEsIsOsUrLAsEsIsOsUrMAsEsIsOsUrNAsEsIsOsUrOrPAsEsIsOsUrRAsEsIsOsUrSAsEsIsOsUrTAsEsIsO",
   "sUrUrWAsEsIsOrXAsErZAsOeO-MINOAN SIGN CM001w2w4w5w6w7w8w9v10w1w2xBw3w5w7w9v21w3w4w5w6w7w8w9v30",
   "w3w4w5w6w7w8w9v40w1w4w6w7w9v50w1w2w3w4w5w6w8w9v60w1w2w3w4w6w7w8w9v70w1w2w3w4w5xBw6w8w9v80w1w2",
   "w3w4w5w6w7w8w9v90w1w2w4w5w6w7w8w9u100w1w2w3w4w5w7w8w9v10w2w4u301w2cRILLIC CAPITAL LETTER A",
   "z WITH BREVE(DIAERESISzBKHASIAN CHE/ WITH DESCENDER+DZE+HAzLEUT KAyBARRED O) WITH DIAERESIS",
   "!SHKIR KAzEzIG YUS!NOCULAR OzLENDED YUSzROAD OMEGAzYELORUSSIAN-UKRAINIAN IyCCHEzHE",
   "# WITH DESCENDER+IAERESIS*VERTICAL STROKEzLOSED LITTLE YUSzROSSED OyDCHEzEzJE#RV",
   "zOUBLE MONOCULAR O(OzWEzZE#LO!HE!WE!ZE#HEyEz WITH DIAERESISzFzL! WITH DESCENDER)HOOK",
   ")MIDDLE HOOK)TAILzM! WITH TAILzN! WITH DESCENDER)HOOK)LEFT HOOK)MIDDLE HOOK)TAILzR! WITH TICK",
   "zS! WITH DESCENDERyFITAyGHE# WITH DESCENDER*MIDDLE HOOK*STROKE; AND HOOK*UPTURNzJEyHA",
   "! WITH DESCENDER)HOOK)STROKE!RD SIGNzWEyIz WITH DIAERESIS(GRAVE(MACRONzE! WITH BREVE)GRAVEzO",
   "!TA#IFIED A*BIG YUS*CLOSED LITTLE YUS*E*LITTLE YUS*YATzZHITSA( WITH DOUBLE GRAVE ACCENTyJEyKA",
   "! WITH DESCENDER)HOOK)STROKE)VERTICAL STROKEzHAKASSIAN CHEzJEzOMI DE&JE&ZJE%LJE%NJE%SJE%TJE",
   "%ZJE!PPAzSIyLHAzITTLE YUSzJEyMONOCULAR O$GRAPH UKyNEUTRAL YERzJEyOz WITH DIAERESISzMEGA",
   "% WITH TITLOzTyPE! WITH DESCENDER)MIDDLE HOOKzSIyQAyREVERSED DZE*TSE*YU*ZEzHAzOUND OMEGAySCHWA",
   "% WITH DIAERESISzEMISOFT SIGNzHA!CHA!HA$ WITH DESCENDER!ORT I( WITH TAIL&U!WEzOFT DE%EL&M%SIGN",
   "zTRAIGHT U+ WITH STROKEyTCHEzE! WITH DESCENDER)MIDDLE HOOKzSE!HE!SE!WEzWEyUz WITH DIAERESIS",
   ")OUBLE ACUTE(MACRONzK!RAINIAN IEyVEyWEyYA!E!TzERU$ WITH BACK YER+DIAERESISzIzNzUyZE",
   "! WITH DESCENDER*IAERESIS!MLYAzHE# WITH BREVE*DESCENDER+IAERESIS!WEsIGATURE A IE!EN GHE!TE TSE",
   "jKAVYKAjLETTER MULTIOCULAR OqPALOCHKAqSMALL CAPITAL ELjPAYEROKjSMALL LETTER Ax WITH BREVE",
   "%DIAERESISxBKHASIAN CHE, WITH DESCENDER)DZE)HAxLEUT KAwBARRED O& WITH DIAERESISySHKIR KAxE",
   "xIG YUSyNOCULAR OxLENDED YUSxROAD OMEGAxYELORUSSIAN-UKRAINIAN IwCCHExHEz WITH DESCENDER",
   ")IAERESIS(VERTICAL STROKExLOSED LITTLE YUSxROSSED OwDCHExExJEzRVxOUBLE MONOCULAR O%OxWExZEzLO",
   "yHEyWEyZEzHEwEx WITH DIAERESISxFxLy WITH DESCENDER&HOOK&MIDDLE HOOK&TAILxMy WITH TAILxN",
   "y WITH DESCENDER&HOOK&LEFT HOOK&MIDDLE HOOK&TAILxRy WITH TICKxSy WITH DESCENDERwFITAwGHE",
   "z WITH DESCENDER(MIDDLE HOOK(STROKE/ AND HOOK(UPTURNxJEwHAy WITH DESCENDER&HOOK&STROKEyRD SIGN",
   "xWEwIx WITH DIAERESIS%GRAVE%MACRONxEy WITH BREVE&GRAVExOyTAzIFIED A(BIG YUS(CLOSED LITTLE YUS",
   "(E(LITTLE YUS(YATxZHITSA% WITH DOUBLE GRAVE ACCENTwJEwKAy WITH DESCENDER&HOOK&STROKE",
   "&VERTICAL STROKExHAKASSIAN CHExJExOMI DE$JE$ZJE#LJE#NJE#SJE#TJE#ZJEyPPAxSIwLHAxITTLE YUSxJE",
   "xONG-LEGGED DEwMONOCULAR O!GRAPH UKwNARROW OxEUTRAL YERxJEwOx WITH DIAERESISxMEGA# WITH TITLO",
   "xTwPALOCHKAxEy WITH DESCENDER&MIDDLE HOOKxSIwQAwREVERSED DZE(TSE(YU(ZExHAxOUND OMEGA#ED VE",
   "wSCHWA# WITH DIAERESISxEMISOFT SIGNxHAyCHAyHA! WITH DESCENDERyORT I% WITH TAIL$UyWExOFT DE#EL",
   "$M#SIGNxTRAIGHT U) WITH STROKEwTALL HARD SIGN#TE#YATxCHExEy WITH DESCENDER&MIDDLE HOOK",
   "xHREE-LEGGED TExSEyHEySEyWExWEwUx WITH DIAERESIS&OUBLE ACUTE%MACRONxKyRAINIAN IExNBLENDED UK",
   "wVEwWExIDE ESwYAyEyTxERU! WITH BACK YER)DIAERESISxIxNxUwZEy WITH DESCENDER(IAERESISyMLYAxHE",
   "z WITH BREVE(DESCENDER)IAERESISyWEqIGATURE A IEyEN GHEyTE TSEjTHOUSANDS SIGNaDAGGERg KNIFE",
   "hWITH LEFT GUARDmRIGHT GUARDcLET SYMBOLcNCERdGOcRK SHADEgUNGLASSEScSH SYMBOLfWITH LEFT UPTURN",
   "eED LOW LINEhOVERLINEhTRIANGLE-HEADED RIGHTWARDS ARROWcTA LINK ESCAPEbC1c2c3c4cSbEAF PERSON",
   "cCIDUOUS TREEeMAL EXPONENT SYMBOLiSEPARATOR KEY SYMBOLdREASE FONT SIZE SYMBOLcERcGREE CELSIUS",
   "hFAHRENHEIThSIGNcLdETEdIVERY TRUCKdTA EQUAL TOcNTISTRY SYMBOL LIGHT DOWN AND HORIZONTAL",
   "> WITH CIRCLE_TRIANGLE_WAVExUP AND HORIZONTAL< WITH CIRCLE]TRIANGLE]WAVE",
   "xVERTICAL AND BOTTOM LEFT?RIGHT.TOP LEFT<RIGHT.WAVE)WITH CIRCLE/TRIANGLEcPARTMENT STORE",
   "cRELICT HOUSE BUILDINGcSCENDING NODEdERET CAPITAL LETTER AYxBEExCHEExDEExEFyLyMyNzGyRySzHyTHyW",
   "xGAYxHxJEExKAYxLONG A%H$E$I$O%OxOIyWxPEExSHORT A&H%E%I%O&OxTEEyHEExVEExWUxYEExZEEyHEE",
   "iSMALL LETTER AYvBEEvCHEEvDEEvEFwLwMwNxGwRwSxHwTHwWvGAYvHvJEEvKAYvLONG A#H!E!I!O#OvOIwWvPEE",
   "vSHORT A$H#E#I#O$OvTEEwHEEvVEEvWUvYEEvZEEwHEEfTg ISLANDdKTOP COMPUTERiWINDOW",
   "cVANAGARI ABBREVIATION SIGNmCUTE ACCENTlCARETlDANDAmIGIT EIGHTrFIVEsOURrNINErONErSEVENsIX",
   "rTHREEsWOrZEROmOUBLE DANDAlGAP FILLERmRAVE ACCENTlHEADSTROKElJAIN OMlLETTER AtAtItUtWtYsBAtBA",
   "tHAsCAuNDRA AzEzOtHAsDAtDAuDAvHAuHAtHAsEsFAsGAtGAtHAuHAtLOTTAL STOPsHAtEAVY YAsItIsJAtHAtJAsKA",
   "tHAuHAsLAtLAuLAsMAuRWARI DDAsNAtGAtNAuNAtYAsOtEtOEsPAtHAsQAsRAtHAtRAsSAtHAuORT AyEyOtSAsTAtHA",
   "tTAuHAsUtEtUuEsVAtOCALIC L#L!R#RsYAtYAsZAtHAlOMlSIGN ANUSVARArVAGRAHAqCANDRABINDU# AVAGRAHA",
   "$THREE%WO$VIRAMAqDOUBLE CANDRABINDU VIRAMAqHIGH SPACING DOTqINVERTED CANDRABINDUqNUKTA",
   "qPUSHPIKAqSIDDHAMrPACING CANDRABINDUqVIRAMAsSARGAmTRESS SIGN ANUDATTAxUDATTAlVOWEL SIGN AAxIxU",
   "xWxYwCANDRA E%LONG E%OwEwIxIwOxExOEwPRISHTHAMATRA EwSHORT E$OwUxExUyEwVOCALIC L(L&R(R",
   "dICE CONTROL FOURpONEpSTRINGpTHREEqWObIAERESISdMETER SIGNeOND OPERATORiSHAPE WITH A DOT INSIDE",
   "iTARGETiWITH BOTTOM HALF BLACKnLEFT HALF BLACKnRIGHT HALF BLACKnTOP HALF BLACKcE FACE-1j2j3j4",
   "j5j6dSEL LOCOMOTIVEcFFERENCE BETWEENcGIT EIGHTl COMMAmFULL STOPgFIVEk COMMAlFULL STOPhOUR",
   "k COMMAlFULL STOPgNINEk COMMAlFULL STOPgONEj COMMAkFULL STOPgSEVENl COMMAmFULL STOPhIXj COMMA",
   "kFULL STOPgTHREEl COMMAmFULL STOPhWOj COMMAkFULL STOPgZEROk COMMAlFULL STOPdRAM FOR EARTH",
   "qLY HEAVENuUMANlGREATER YANGuINlHEAVENLY EARTHmUMAN EARTHlLESSER YANGtINcMENSION ORIGIN",
   "cNGBAT CIRCLED SANS-SERIF DIGIT EIGHT*FIVE+OUR*NINE*ONE*SEVEN+IX*THREE+WO*ZERO#NUMBER TEN",
   "iNEGATIVE CIRCLED DIGIT EIGHT(FIVE)OUR(NINE(ONE(SEVEN)IX(THREE)WOzNUMBER TEN",
   "zSANS-SERIF DIGIT EIGHT>FIVE?OUR>NINE>ONE>SEVEN?IX>THREE?WO>ZERO.NUMBER TEN",
   "cRECT CURRENT SYMBOL FORM TWOhHITcSABLED CARePPOINTED BUT RELIEVED FACEnFACE",
   "dCONTINUOUS UNDERLINE SYMBOLdGUISED FACEcTTO MARKcVES AKURU DIGIT EIGHTsFIVEtOURsNINEsONE",
   "sSEVENtIXsTHREEtWOsZEROnOUBLE DANDAmEND OF TEXT MARKmGAP FILLERmINITIAL RAmLETTER AuAtBAuHAtCA",
   "uHAtDAuDAvHAuHAtEtGAuHAtHAtIuItJAtKAuHAtLAuLAtMAtNAuGAuNAuYAtOtPAuHAtRAtSAuHAuSAtTAuHAuTAtUuU",
   "tVAtYAuYAtZAmMEDIAL RAtYAmPREFIXED NASAL SIGNmSIGN ANUSVARArCANDRABINDUrHALANTArNUKTAmVIRAMA",
   "nOWEL SIGN AAyIxExIyIxOxUyUdIDESeNG MASKeSION SIGNkLASHjTIMESdORCE SYMBOLcYA LAMPcZZY FACE",
   "gSYMBOLbLEbNA DOUBLE HELIXbO NOT LITTER SYMBOLcCUMENTi WITH PICTUREoTEXTs AND PICTUREcDO",
   "cES NOT CONTAIN AS MEMBERuNORMAL SUBGROUP, OR EQUALjDIVIDEp WITH REVERSED NEGATION SLASHjFORCE",
   "jPRECEDEq OR EQUALlOVEjSUCCEEDq OR EQUALcGd FACEdRA ABBREVIATION SIGNgLETTER AoAoIoUnBAoHAnCA",
   "oHAnDAoDApHAoHAnEnGAoHAnHAnIoInJAoHAnKAoHAnLAnMAnNAoGAoNAoYAnOnPAoHAnRAoRAnSAoHAoSAnTAoHAoTA",
   "pHAnUoUnVAnYAgSIGN ANUSVARAlNUKTAlVIRAMAnSARGAgVOWEL SIGN AAsIsUrErIsIrOrUsUrVOCALIC R!R",
   "cLLAR SIGNdPHINcMINO TILE HORIZONTAL BACKw-00-00#1#2#3#4#5#6y1-00#1#2#3#4#5#6y2-00#1#2#3#4#5#6",
   "y3-00#1#2#3#4#5#6y4-00#1#2#3#4#5#6y5-00#1#2#3#4#5#6y6-00#1#2#3#4#5#6mVERTICAL BACKu-00-00z1z2",
   "z3z4z5z6w1-00z1z2z3z4z5z6w2-00z1z2z3z4z5z6w3-00z1z2z3z4z5z6w4-00z1z2z3z4z5z6w5-00z1z2z3z4z5z6",
   "w6-00z1z2z3z4z5z6cNG SIGNcORcT ABOVEeMINUSeOPERATORePLUSdTED CIRCLEiROSShFENCEhLINE FACE",
   "hOBELOShRIGHT-POINTING ANGLEhSOLIDUSiQUAREhTRANSPOSITION MARKERcUBLE ACUTE ACCENT",
   "hCIRCLED DIGIT EIGHTvFIVEwOURvNINEvONEvSEVENwIXvTHREEwWOpNUMBER TENiOLON EQUALiURLY LOOP",
   "hDAGGERiOWN TACKhEXCLAMATION MARKhHIGH-REVERSED-9 QUOTATION MARKiYPHENhINTEGRALlRSECTION",
   "hLEFT ARC GREATER-THAN BRACKETiOGICAL ANDpORjW LINEk-9 QUOTATION MARK",
   "lREVERSED-9 QUOTATION MARKhNESTED GREATER-THANoLESS-THANx WITH UNDERBARhOBLIQUE HYPHENhPLUS",
   "iRECEDESjIMEm QUOTATION MARKhQUESTION MARKhRIGHT ARC LESS-THAN BRACKEThSOLIDUS OPERATOR",
   "iQUARE INTERSECTIONoUNIONiTACKED COMMAjROKE NOT SIGNiUBSETjCCEEDSjPERSETjSPENSION MARKhUNION",
   "iP TACKhVERTICAL BARt DOUBLE LEFT TURNSTILE#RIGHT TURNSTILEuLEFT TURNSTILEqLINEhWAVY OVERLINE",
   "g-ENDED MULTIMAPhLINE EQUAL TO OR GREATER-THANyLESS-THANmSLANTED EQUAL TO OR GREATER-THAN",
   ")LESS-THANuGREATER-THAN OR EQUAL TOuLESS-THAN OR EQUAL TOhSTRUCK CAPITAL CwGAMMAwHwNwPxIwQwRwZ",
   "oITALIC CAPITAL DvSMALL D#E#I#JoN-ARY SUMMATIONoSMALL GAMMAuPIgD FEMALE SIGNiMALE SIGNiSYMBOL",
   "dGHNUTcVE OF PEACEcWN ARROWHEADfFISH TAILfRIGHT DIAGONAL ELLIPSISfTACKj WITH CIRCLE BELOW",
   "e-POINTING RED TRIANGLEoSMALL RED TRIANGLEoTRIANGLE WITH LEFT HALF BLACK$RIGHT HALF BLACK",
   "eWARD FACING HOOKu WITH DOTqNOTCHED HOOK$ WITH DOTiS ANCORAlRROWp AND RIGHT ONE EIGHTH BLOCK",
   "qFROM BARqLEFTWARDS OF UPWARDS ARROWqTO BARqWITH CORNER LEFTWARDSvDOUBLE STROKE",
   "vEQUILATERAL ARROWHEADvHORIZONTAL STROKEvLARGE TRIANGLE ARROWHEADvMEDIUM TRIANGLE ARROWHEAD",
   "vNOTCHED TAILvSMALL EQUILATERAL ARROWHEAD#TRIANGLE ARROWHEADvTIP LEFTWARDSzRIGHTWARDS",
   "kBLACK ARROWqCIRCLED WHITE ARROWkCOMPRESSED ARROWkDASHED ARROWlOUBLE ARROWkFINGER-POST ARROW",
   "kHARPOON WITH BARB LEFT BESIDE DOWNWARDS HARPOON WITH BARB RIGHT",
   "<UPWARDS HARPOON WITH BARB RIGHT*FROM BAR*TO BAR)WARDS$RIGHT FROM BAR+TO BAR*WARDSlEAVY ARROW",
   "qCOMPRESSED ARROWkPAIRED ARROWSkQUADRUPLE ARROWkROCKETkSANS-SERIF ARROWlQUARED ARROW",
   "kTRIANGLE ARROWHEADs-HEADED ARROW( LEFTWARDS OF UPWARDS TRIANGLE-HEADED ARROW)TO BAR",
   ")WITH BOLD SHAFT/DOUBLE HORIZONTAL STROKE/HEAVY SHAFT/LONG TIP LEFTWARDS]RIGHTWARDS",
   "/MEDIUM SHAFT/NARROW SHAFT/VERY HEAVY SHAFT!DASHED ARROW!PAIRED ARROWS!ZIGZAG ARROWnPLE ARROW",
   "lWO HEADED ARROWn-HEADED ARROW WITH TRIANGLE ARROWHEADSkWHITE ARROWv WITHIN TRIANGLE ARROWHEAD",
   "kZIGZAG ARROWbRACHMA SIGNdFTING POINT RIGHTWARDS ARROWdGONg FACEcESScIVE SLOW SIGN",
   "cOMEDARY CAMELdOLING FACEdP OF BLOODeLETcUM WITH DRUMSTICKSbUCKcMPLING",
   "cPLOYAN AFFIX ATTACHED E HOOKyI HOOKyLEFT-TO-RIGHT SECANTySECANTyTAIL!NGENT( HOOKpHIGH ACUTE",
   "uCIRCLEuDOTuGRAVEuLINEvONG GRAVEuTIGHT ACUTEuVERTICAL$ SECANTuWAVEpLEFT HORIZONTAL SECANT",
   "qOW ACUTEuRROWtCIRCLEtDOTtGRAVEtLINEuONG GRAVEtTIGHT ACUTEtVERTICAL# SECANTtWAVE",
   "pMID HORIZONTAL SECANTtVERTICAL SECANTpRIGHT HORIZONTAL SECANTjDOUBLE MARKjLETTER ArOUqBqDr S",
   "rHqErErUqFr NqGr R SqHrLqIrEqJr Mt SsNt SsSt WITH DOTsWITH DOT!S INSIDE AND ABOVEqKr MsR SrKqL",
   "rHrONG IvUqMr Nt SsSsWITH DOTqNr Mt SsSsWITH DOTrASAL AwIwOwUqOrArOHrUrWqPr NrERNIN AMyNqRr S",
   "rHrOMANIAN IzUqSr Jt SsKt RsMsNsPt RsSsTt RsWITH DOT! BELOWrHORT IrLOAN ANwDHwEExHxNwJwONxWwU",
   "qTr R SsSrHqUr NrHrIqVrOCALIC MqWr RrArEIrHrIrOsWqXrWqYEjPUNCTUATION CHINOOK FULL STOP",
   "jSIGN O WITH CROSSjTHICK LETTER SELECTORbVDaE-MAIL SYMBOLbAGLEcRd OF MAIZEhRICE",
   "eWITH HEARING AIDdTHf GLOBE AMERICASnSIA-AUSTRALIAmEUROPE-AFRICAhROUNDcST SYRIAC CROSS",
   "bDITORIAL CORONISbGGcYPTIAN HIEROGLYPH A001x2x3x4x5yAx6yAyBx7x8x9w10x1x2x3x4yAx5x6x7yAx8x9w20",
   "x1x2x3x4x5x6x7x8x9w30x1x2yAx3x4x5x6x7x8x9w40yAx1x2yAx3yAx4x5yAx6x7x8x9w50x1x2x3x4x5x6x7x8x9w60",
   "x1x2x3x4x5x6x7x8x9w70vA001y2y3y4y5y6y7zAzBy8y9x10y1y2y3y4y5y6y7y8y9x20y1y2y3y4y5y6y7y8y9x30y1",
   "y2uB001x2x3x4x5yAx6x7x8x9vEGIN SEGMENTuC001x2yAyByCx3x4x5x6x7x8x9w10yAx1x2x3x4x5x6x7x8x9w20x1",
   "x2x3x4uD001x2x3x4x5x6x7x8yAx9w10x1x2x3x4x5x6x7x8x9w20x1x2x3x4x5x6x7yAx8x9w30x1yAx2x3x4yAx5x6x7",
   "x8x9w40x1x2x3x4x5x6yAx7x8yAx9w50yAyByCyDyEyFyGyHyIx1x2yAx3x4yAx5x6x7x8x9w60x1x2x3x4x5x6x7yAyB",
   "yCyDyEyFyGyHuE001x2x3x4x5x6x7x8yAx9yAw10x1x2x3x4x5x6yAx7yAx8x9w20yAx1x2x3x4x5x6x7x8yAx9w30x1x2",
   "x3x4yAx6x7x8vND SEGMENTuF001yAx2x3x4x5x6x7x8x9w10x1x2x3yAx4x5x6x7x8x9w20x1yAx2x3x4x5x6x7x8x9",
   "w30x1yAx2x3x4x5x6x7yAx8yAx9w40x1x2x3x4x5yAx6yAx7yAx8x9w50x1yAyByCx2x3uG001x2x3x4x5x6yAx7yAyBx8",
   "x9w10x1yAx2x3x4x5x6x7x8x9w20yAx1x2x3x4x5x6yAx7x8x9w30x1x2x3x4x5x6yAx7yAx8x9w40x1x2x3yAx4x5yAx6",
   "x7x8x9w50x1x2x3x4uH001x2x3x4x5x6yAx7x8vORIZONTAL JOINERuI001x2x3x4x5yAx6x7x8x9yAw10yAx1yAx2x3",
   "x4x5vNSERT AT BOTTOM END/START&TOP END+STARTuK001x2x3x4x5x6x7x8uL001x2yAx3x4x5x6yAx7x8uM001yA",
   "yBx2x3yAx4x5x6x7x8x9w10yAx1x2yAyByCyDyEyFyGyHx3x4x5yAx6yAx7yAx8x9w20x1x2yAx3x4yAx5x6x7x8yAx9",
   "w30x1yAx2x3yAyBx4x5x6x7x8x9w40yAx1x2x3x4uN001x2x3x4x5x6x7x8x9w10x1x2x3x4x5x6x7x8yAyBx9w20x1x2",
   "x3x4x5yAx6x7x8x9w30x1x2x3yAx4yAx5yAx6x7yAx8x9w40x1x2vL001y2y3y4y5zAy6y7y8y9x10y1y2y3y4y5y6y7zA",
   "y8y9x20vU001y2y3y4y5y6y7y8y9x10zAy1zAy2y3y4y5y6y7y8zAy9x20y1y2zAuO001yAx2x3x4x5yAx6yAyByCyDyE",
   "yFx7x8x9w10yAyByCx1x2x3x4x5x6x7x8x9yAw20yAx1x2x3x4yAx5yAx6x7x8x9yAw30yAx1x2x3yAx4x5x6yAyByCyD",
   "x7x8x9w40x1x2x3x4x5x6x7x8x9w50yAyBx1vVERLAY MIDDLEuP001yAx2x3yAx4x5x6x7x8x9w10x1uQ001x2x3x4x5",
   "x6x7uR001x2yAx3yAyBx4x5x6x7x8x9w10yAx1x2x3x4x5x6yAx7x8x9w20x1x2x3x4x5x6x7x8x9uS001x2yAx3x4x5x6",
   "yAx7x8x9w10x1x2x3x4yAyBx5x6x7yAx8x9w20x1x2x3x4x5x6yAyBx7x8x9w30x1x2x3x4x5yAx6x7x8x9w40x1x2x3x4",
   "x5x6uT001x2x3yAx4x5x6x7yAx8yAx9yAw10x1yAx2x3x4x5x6yAx7x8x9w20x1x2x3x4x5x6x7x8x9w30x1x2yAx3yAx4",
   "x5x6uU001x2x3x4x5x6yAyBx7x8x9w10x1x2x3x4x5x6x7x8x9w20x1x2x3yAx4x5x6x7x8x9yAw30x1x2yAx3x4x5x6x7",
   "x8x9w40x1x2uV001yAyByCyDyEyFyGyHyIx2yAx3x4x5x6x7yAyBx8x9w10x1yAyByCx2yAyBx3x4x5x6x7x8x9w20yAyB",
   "yCyDyEyFyGyHyIyJyKyLx1x2x3yAx4x5x6x7x8yAx9yAw30yAx1yAx2x3yAx4x5x6x7yAx8x9w40yAvERTICAL JOINER",
   "uW001x2x3yAx4x5x6x7x8x9yAw10yAx1x2x3x4yAx5x6x7yAx8yAx9w20x1x2x3x4yAx5uX001x2x3x4yAyBx5x6yAx7x8",
   "yAuY001yAx2x3x4x5x6x7x8uZ001x2yAyByCyDx3yAyBx4yAx5yAx6x7x8x9w10x1x2x3x4x5yAyByCyDyEyFyGyHyIx6",
   "yAyByCyDyEyFyGyHbIGHT PETALLED OUTLINED BLACK FLORETTEhOINTED BLACK STARoPINWHEEL STAR",
   "oRECTILINEAR BLACK STARgSPOKED ASTERISKgTEARDROP-SPOKED PROPELLER ASTERISKfH NOTEbJECT SYMBOL",
   "bLBASAN LETTER ApBEpCEqHEpDEqHEpEqIpFEpGEqHAMMArEqJEpHEpIpJEpKEqHEpLEqLEpMEpNAqDEqEqJEpOpPEpQE",
   "pREqREpSEqHEpTEqHEpUpVEpXEpYpZEqHEcECTRIC ARROWjLIGHT BULBjPLUGjTORCHiAL INTERSECTIONdMENT OF",
   "k OPENING DOWNWARDStUPWARDSlWITH DOT ABOVEqLONG HORIZONTAL STROKEqOVERBAR",
   "qTWO HORIZONTAL STROKESqUNDERBARqVERTICAL BAR AT END OF HORIZONTAL STROKEdPHANTdVATORcF",
   "cYMAIC LETTER ALEPHqYINpBETHpDALETHpGIMELpHErTHpKAPHpLAMEDHpMEMpNUNpPEpQOPHpRESHpSADHErMEKH",
   "qHINpTAWqETHpWAWpYODHpZAYINjIGATURE ZAYIN-YODHbM DASHdQUADdSPACEcOJI COMPONENT BALDqCURLY HAIR",
   "qRED HAIRqWHITE HAIRgMODIFIER FITZPATRICK TYPE-1-2)3)4)5)6cPHASIS SYMBOLdTY DOCUMENTgNESThOTE",
   "k PADnGEgPAGEkSgSETj WITH LEFT ARROW ABOVEpOVERBARpRIGHT ARROW ABOVEpSMALL CIRCLE ABOVEbN DASH",
   "dQUADdSPACEcD OF GUARDED AREAhLINEhMEDIUMhPROOFkTECTED AREAhSELECTED AREAhTEXTiRANSMISSION",
   "t BLOCKeWITH LEFTWARDS ARROW ABOVEcQdUIRYcTER SYMBOLcVELOPEi WITH DOWNWARDS ARROW ABOVE",
   "oLIGHTNINGbOLcMcTbPAbQUAL AND PARALLEL TOgTO BY DEFINITIONjOR GREATER-THANmLESS-THANmPRECEDES",
   "mSUCCEEDSfS COLONhSIGNl ABOVE LEFTWARDS ARROWsPLUS SIGNsRIGHTWARDS ARROWsTILDE OPERATOR",
   "nND SLANTED PARALLEL) WITH TILDE ABOVEmWITH BUMPY ABOVErDOT BELOWrINFINITY BELOW",
   "rTWO DOTS ABOVE AND TWO DOTS BELOWhWITH ASTERISKdIANGULAR TOeVALENT TOlWITH FOUR DOTS ABOVE",
   "bRASE TO THE LEFTnRIGHTcIS FORM ONEkTWOcROR-BARRED BLACK CIRCLEtDIAMONDtSQUAREnWHITE CIRCLE",
   "tDIAMONDtSQUAREbSAcCdAPEcTIMATED SYMBOLiSbTBcHIOPIC COLON",
   "lMBINING GEMINATION AND VOWEL LENGTH MARK&MARKtVOWEL LENGTH MARKmMAjDIGIT EIGHTpFIVEqOURpNINE",
   "pONEpSEVENqIXpTHREEqWOjFULL STOPjNUMBER EIGHTYqFIFTYrORTYqHUNDREDqNINETYqSEVENTYrIXTYqTEN",
   "t THOUSANDrHIRTYrWENTYjPARAGRAPH SEPARATORkREFACE COLONjQUESTION MARKjSECTION MARKlMICOLON",
   "kYLLABLE BAuAtBAvAuEvEuIuOuUtEuEtItOuAtUtWAuEvEuIsCAuAtCAvAuEvEuHAwAvEwEvHAxAwExEwIwOwUvIvOvU",
   "uIuOuUtEuEtHAvAuEvEuIuOvAuUuWAtItOuAtUtWAsDAuAtDAvAuEvEuHAAvEwEvIvOvUuIuOvAuUuWAtEuEtItOuAtU",
   "tWAtZAAuEvEuIuOuUsFAuAtEuEtItOtUtWAuEvEuItYAsGAuAtEuEtGAvAuEvEuIuOuUuWAwAvEwEvItItLOTTAL A#A!E",
   "#E!I!O#A!U!WAtOuAtUuRAGE BWEE#IzFWEE#IzGWE$E#IzHHWAzKWE$E#IzMWEE#IzPWEE#IzQWE$E#ItWAvAuEvEuI",
   "tYAvAuEvEuIuOuUsHAuAtEuEtHAvAuEvEuIuOuUuWAvEwEvIuYAwAvEwEvIvOvUtItOuAtUsJAuAtEuEtItOuAtUtWAsKA",
   "uAtEuEtItOuAtUtWAvAuEvEuItXAvAuEvEuIuOuUuWAwAvEwEvItYAvAuEvEuIuOuUsLAuAtEuEtItOuAtUtWAsMAuAtE",
   "uEtItOuAtUtWAuEvEuItYAsNAuAtEuEtItOuAtUtWAtYAvAuEvEuIuOvAuUuWAsPAuAtEuEtHAvAvRYNGEAL A&A%E&E%I",
   "%O%UuEvEuIuOvAuUuWAtItOuAtUtWAuEvEuIsQAuAtEuEtHAvAuEvEuIuOuUuWAwAvEwEvItItOuAtUtWAvAuEvEuItYA",
   "vAuEvEuIuOuUsRAuAtEuEtItOuAtUtWAtYAsSAuAtEuBATBEIT BWA$FWA$MWA$PWAuEtHAvAuEvEuIuOvAuUuWAtItOuA",
   "tSAvAuEvEuIuOuUtUtWAtZAvAuEvEuIuOuUuWAsTAuAtEuEtHAvAuEvEuIuOvAuUuWAtItOuAtSAvAuEvEuIuOuUuWA",
   "tTHAAvEwEvIvOvUtUtWAtZAvAuEvEuIuOvAuUsVAuAtEuEtItOtUtWAsWAuAtEuEtItOuAtUsXAuAtEuEtItOuAtUtWAvA",
   "uEvEuItYAvAuEvEuIuOuUsYAuAtEuEtItOuAtUsZAuAtEuEtHAvAuEvEuIuOuUuWAtItOuAtUtWAtZAvAuEvEuIuOuU",
   "jTONAL MARK CHIRETuDERETz-HIDETvIFATuHIDETuKENATvURTuRIKRIKuSHORT RIKRIKuYIZETjWORDSPACEcX",
   "bULER CONSTANTcRO SIGNe-CURRENCY SIGNePEAN CASTLEjPOST OFFICEbVERGREEN TREEbXCESS",
   "dLAMATION MARKmQUESTION MARKcPRESSIONLESS FACEcTENDED ARABIC-INDIC DIGIT EIGHT$FIVE%OUR$NINE",
   "$ONE$SEVEN%IX$THREE%WO$ZEROdRATERRESTRIAL ALIENeEMELY HEAVY FIVE SPOKED ASTERISKqGREEK CROSS",
   "qSALTIRErIX SPOKED ASTERISKqWHITE CIRCLEwSQUAREbYEdGLASSESdSaFACE HOLDING BACK TEARSfMASSAGE",
   "fPALMfSAVOURING DELICIOUS FOODgCREAMING IN FEARfTHROWING A KISSfWITH COLD SWEATmWBOY HAT",
   "kDIAGONAL MOUTHkFINGER COVERING CLOSED LIPSkHEAD-BANDAGEkLOOK OF TRIUMPHkMEDICAL MASKlONOCLE",
   "kNO GOOD GESTUREkOK GESTURElNE EYEBROW RAISEDlPEN EYES AND HAND OVER MOUTHpMOUTH",
   "u AND COLD SWEATvVOMITINGkPARTY HORN AND PARTY HATlEEKING EYElLEADING EYESkROLLING EYES",
   "kSTUCK-OUT TONGUE! AND TIGHTLY-CLOSED EYES(WINKING EYEkTEARS OF JOYlHERMOMETER",
   "kUNEVEN EYES AND WAVY MOUTHjOUT MOUTHdSIMILE SIGNdTORYcIRYcLAFELdLEN LEAF",
   "eING DIAGONAL CROSSING NORTH EAST ARROW!RISING DIAGONALrIN WHITE CIRCLE IN BLACK SQUAREcMILY",
   "cRSI SYMBOLcTHER CHRISTMAScX ICONeMACHINEbEARFUL FACEdTHERcMALE SIGNdININE ORDINAL INDICATOR",
   "cNCERcRRIS WHEELeYbFbIELD HOCKEY STICK AND BALLcGURE DASHhSPACEcLE CABINETfFOLDERfSEPARATOR",
   "dM FRAMESfPROJECTORcNITE PART INTEGRALcREe ENGINEgXTINGUISHEReCRACKEReWORK SPARKLERiS",
   "dST PLACE MEDALgQUARTER MOONs SYMBOLtWITH FACEgSTRONG ISOLATEcSHe CAKE WITH SWIRL DESIGNeEYE",
   "eING POLE AND FISHdTED HAND SIGNcVE DOT MARKjPUNCTUATIONbLAG IN HOLEdMINGOdT SHOEeBREADeNESS",
   "cEUR-DE-LISdXED BICEPScOPPY DISKdRAL HEARTdWERg PLAYING CARDSiUNCTUATION MARKcUSHED FACEcY",
   "dING DISChENVELOPEhSAUCERbOGdGYcLDERcNDUEcOTePRINTScR ALLdCESdK AND KNIFEo WITH PLATE",
   "eED PARAGRAPHOSeINGdM FEEDdTUNE COOKIEcUNTAINdR BALLOON-SPOKED ASTERISKfCLUB-SPOKED ASTERISK",
   "gORNER ARROWS CIRCLING ANTICLOCKWISEfDOT MARKjPUNCTUATIONfLEAF CLOVERfPOINTED BLACK STAR",
   "fTEARDROP-SPOKED ASTERISKe-PER-EM SPACEeTH ROOTcX FACEbRACTION NUMERATOR ONEjSLASH",
   "dME WITH AN XlPICTURElTILEScEEZING FACEdNCH FRANC SIGNjIEScIED SHRIMPcOG FACE",
   "dNT-FACING BABY CHICKgTILTED SHADOWED WHITE RIGHTWARDS ARROWdWNfING FACE WITH OPEN MOUTHbScI",
   "bUEL PUMPcLL BLOCKfMOON SYMBOLkWITH FACEfOUTER JOINfSTOPeWIDTH AMPERSANDlPOSTROPHElSTERISK",
   "kBROKEN BARkCENT SIGNlIRCUMFLEX ACCENTlOLONmMMAoERCIAL ATkDIGIT EIGHTqFIVErOURqNINEqONEqSEVEN",
   "rIXqTHREErWOqZEROlOLLAR SIGNkEQUALS SIGNlXCLAMATION MARKkFULL STOPkGRAVE ACCENT",
   "mEATER-THAN SIGNkHYPHEN-MINUSkLATIN CAPITAL LETTER A(B(C(D(E(F(G(H(I(J(K(L(M(N(O(P(Q(R(S(T(U(V",
   "(W(X(Y(ZqSMALL LETTER A%B%C%D%E%F%G%H%I%J%K%L%M%N%O%P%Q%R%S%T%U%V%W%X%Y%ZlEFT CURLY BRACKET",
   "pPARENTHESISpSQUARE BRACKETpWHITE PARENTHESISmSS-THAN SIGNlOW LINEkMACRONkNOT SIGNlUMBER SIGN",
   "kPERCENT SIGNlLUS SIGNlOUND SIGNkQUESTION MARKmOTATION MARKkREVERSE SOLIDUSlIGHT CURLY BRACKET",
   "qPARENTHESISqSQUARE BRACKETqWHITE PARENTHESISkSEMICOLONlOLIDUSkTILDEkVERTICAL LINEkWON SIGN",
   "kYEN SIGNcNCTION APPLICATIONdERAL URNcSEbVS1d2d3d4aGAME DIEcRLICbEARe WITH HANDLESjOUT HUB",
   "cM STONEdINIcNIEcOMETRIC PROPORTIONjALLY EQUAL TOrIVALENT TOdRGIAN CAPITAL LETTER AENzNyBAN",
   "yCANzHAR!INzILyDONyENyGANzHANyHAE!RzEzIEzOEyINyJHANzILyKANzHARyLASyMANyNARyONyPARzHARyQARyRAE",
   "ySANzHINyTAN!RyUNyVINyWEyXANyYNyZENzHARjLETTER AENrINrNqBANqCANrHARsINrILqDONqELIFIrNqFIqGAN",
   "rHANqHAEsRtD SIGNrErIErOEqINqJHANrILqKANrHARqLABIAL SIGNsSqMANqNARqONqPARrHARqQARqRAEqSANrHIN",
   "qTANsRrURNED GANqUNqVINqWEqXANqYNqZENrHARjMTAVRULI CAPITAL LETTER AEN+IN+N*BAN*CAN+HAR,IN+IL",
   "*DON*ELIFI+N*FI*GAN+HAN*HAE,R.D SIGN+E+IE+OE*IN*JHAN+IL*KAN+HAR*LABIAL SIGN,S*MAN*NAR*ON*PAR",
   "+HAR*QAR*RAE*SAN+HIN*TAN,R+URNED GAN*UN*VIN*WE*XAN*YN*ZEN+HARjPARAGRAPH SEPARATOR",
   "jSMALL LETTER AENxNwBANwCANxHARyINxILwDONwENwGANxHANwHAEyRxExIExOEwINwJHANxILwKANxHARwLASwMAN",
   "wNARwONwPARxHARwQARwRAEwSANxHINwTANyRwUNwVINwWEwXANwYNwZENxHARcRMAN PENNY SIGNcTA MARKbHOST",
   "bIMEL SYMBOLcRAFFE FACEdLeS SYMBOLbLAGOLITIC CAPITAL LETTER AZU!BIG YUS#UKY!CAUDATE CHRIVI",
   "#HRIVI!DJERVI#OBRO#ZELO!FITA#RITU!GLAGOLI!HERU!I#NITIAL IZHE#OTATED BIG YUS+SMALL YUS#ZHE%ITSA",
   "!KAKO!LATINATE MYSLITE#JUDIJE!MYSLITE!NASHI!ONU#TU!PE#OKOJI!RITSI!SHA$TA&PIC#LOVO#MALL YUS",
   ", WITH TAIL#PIDERY HA!TROKUTASTI A#SI#VRIDO!UKU!VEDE!YATI#ERI%U$STU#O#U!ZEMLJA#HIVETE",
   "lSMALL LETTER AZUyBIG YUSzUKYyCAUDATE CHRIVIzHRIVIyDJERVIzOBROzZELOyFITAzRITUyGLAGOLIyHERUyI",
   "zNITIAL IZHEzOTATED BIG YUS)SMALL YUSzZHE#ITSAyKAKOyLATINATE MYSLITEzJUDIJEyMYSLITEyNASHIyONU",
   "zTUyPEzOKOJIyRITSIySHA!TA$PICzLOVOzMALL YUS* WITH TAILzPIDERY HAyTROKUTASTI AzSIzVRIDOyUKU",
   "yVEDEyYATIzERI#U!STUzOzUyZEMLJAzHIVETEdSS OF MILKcEICH STARKcOBE WITH MERIDIANSdVESdWING STAR",
   "bOAL NETdTcGGLEScLFERcRILLAcTHIC LETTER AHSApIHVUSoBAIRKANoDAGSoEISoFAIHUoGIBAoHAGLpWAIRoIGGWS",
   "pUJAoJERoKUSMAoLAGUSoMANNAoNAUTHSpINE HUNDREDsTYoOTHALoPAIRTHRAoQAIRTHRAoRAIDAoSAUILoTEIWS",
   "pHIUTHoURUSoWINJAbRADUATION CAPdNTHA AU LENGTH MARKiLETTER AqAqIqUpBAqHApCAqHApDAqDArHAqHApEE",
   "pGAqHApHApIqIpJAqHApKAqHApLAqLApMApNAqGAqNAqYApOOpPAqHApRApSAqHAqSApTAqHAqTArHApUqUpVA",
   "qEDIC ANUSVARAvDOUBLE ANUSVARAqOCALIC LyLxRyRpYAiOMiSIGN ANUSVARAoVAGRAHAnCANDRABINDU",
   "oOMBINING ANUSVARA ABOVEnNUKTAnPLUTAnVIRAMApSARGAiVOWEL SIGN AAuIuUtEEtIuItOOtUuUtVOCALIC L$L",
   "#R$RdPESdVE ACCENTcEATER-THAN ABOVE DOUBLE-LINE EQUAL ABOVE LESS-THAN",
   "tLESS-THAN ABOVE DOUBLE-LINE EQUALtRIGHTWARDS ARROWtSIMILAR ABOVE LESS-THAN#OR EQUAL",
   "uLANTED EQUAL ABOVE LESS-THAN ABOVE SLANTED EQUALoND NOT APPROXIMATErSINGLE-LINE NOT EQUAL TO",
   "nBESIDE LESS-THANoUT NOT EQUAL TOyIVALENT TOnCLOSED BY CURVE$ ABOVE SLANTED EQUAL",
   "nEQUAL TO OR LESS-THANnOR APPROXIMATEqEQUAL TOtIVALENT TOqLESS-THANqSLANTED EQUAL TO",
   ") WITH DOT ABOVE^ LEFT>INSIDEoVER EQUAL TOrLAPPING LESS-THANnSIGNnWITH CIRCLE INSIDEsDOT",
   "sQUESTION MARK ABOVEdEK ACROPHONIC ATTIC FIFTY$ STATERS%TALENTS&HOUSAND/ STATERSzVE# HUNDRED",
   ", STATERS.TALENTS$STATERS$TALENTS%HOUSAND. TALENTSxONE DRACHMA#HALF$UNDRED STATERS,TALENTS",
   "#QUARTER#THOUSAND STATERS.TALENTSxTEN MNAS#STATERS#TALENTS$HOUSAND STATERS",
   "rCARYSTIAN FIVE HUNDREDsYRENAIC TWO DRACHMASrDELPHIC FIVE MNASrEPIDAUREAN FIVE HUNDRED$TWO",
   "( DRACHMASrHERAEUM ONE PLETHRONuMIONIAN FIFTY$ONE$TENrMESSENIAN TENrNAXIAN FIVE HUNDRED",
   "rSTRATIAN FIFTY MNASrTHESPIAN FIFTY$VE HUNDRED(THOUSAND!ONE% HUNDRED&THOUSAND!TEN#HIRTY",
   "$REE HUNDRED#WOsROEZENIAN FIFTY* ALTERNATE FORM&VE) HUNDRED$TEN( ALTERNATE FORMhNO TELEIA",
   "hROURA SIGNiTABE SIGNgBETA SYMBOLgCAPITAL DOTTED LUNATE SIGMA SYMBOLoKAI SYMBOLoLETTER ALPHA",
   "! WITH DASIA/ AND OXIA] AND PROSGEGRAMMENI>PERISPOMENI~ENI AND PROSGEGRAMMENI?ROSGEGRAMMENI",
   ">VARIA^ AND PROSGEGRAMMENI)MACRON)OXIA)PROSGEGRAMMENI*SILI/ AND OXIA] AND PROSGEGRAMMENI",
   ">PERISPOMENI~ENI AND PROSGEGRAMMENI?ROSGEGRAMMENI>VARIA^ AND PROSGEGRAMMENI)TONOS)VARIA*RACHY",
   "wRCHAIC SAMPIvBETAvCHIvDELTAvEPSILON$ WITH DASIA; AND OXIA@VARIA+OXIA+PSILI; AND OXIA@VARIA",
   "+TONOS+VARIAwTAy WITH DASIA, AND OXIA@ AND PROSGEGRAMMENI<PERISPOMENI~I AND PROSGEGRAMMENI",
   "=ROSGEGRAMMENI<VARIA[ AND PROSGEGRAMMENI&OXIA&PROSGEGRAMMENI(SILI, AND OXIA",
   "@ AND PROSGEGRAMMENI<PERISPOMENI~I AND PROSGEGRAMMENI=ROSGEGRAMMENI<VARIA[ AND PROSGEGRAMMENI",
   "&TONOS&VARIAvGAMMAvHETAvIOTAz WITH DASIA. AND OXIA=PERISPOMENI=VARIA)IALYTIKA(MACRON(OXIA",
   "(PSILI. AND OXIA=PERISPOMENI=VARIA(TONOS(VARIA)RACHYvKAPPAvLAMDAvMUvNUvOMEGA! WITH DASIA",
   "/ AND OXIA] AND PROSGEGRAMMENI>PERISPOMENI~ENI AND PROSGEGRAMMENI?ROSGEGRAMMENI>VARIA",
   "^ AND PROSGEGRAMMENI)OXIA)PROSGEGRAMMENI*SILI/ AND OXIA] AND PROSGEGRAMMENI>PERISPOMENI",
   "~ENI AND PROSGEGRAMMENI?ROSGEGRAMMENI>VARIA^ AND PROSGEGRAMMENI)TONOS)VARIAxICRON$ WITH DASIA",
   "; AND OXIA@VARIA+OXIA+PSILI; AND OXIA@VARIA+TONOS+VARIAvPAMPHYLIAN DIGAMMAwHIwIwSIvRHO",
   "y WITH DASIAvSANwHOwIGMAvTAUwHETAvUPSILON$ WITH DASIA; AND OXIA@PERISPOMENI@VARIA,IALYTIKA",
   "+MACRON+OXIA+TONOS+VARIA,RACHYvXIvYOTvZETApUNATE SIGMA SYMBOL",
   "oREVERSED DOTTED LUNATE SIGMA SYMBOLxLUNATE SIGMA SYMBOLoTHETA SYMBOLgDASIAl AND OXIA",
   "qPERISPOMENIqVARIAhIALYTIKA AND OXIAuPERISPOMENIuVARIAqTONOShRACHMA SIGNgFIVE OBOLS SIGN",
   "hOUR OBOLS SIGNgGRAMMA SIGNgINDICTION SIGNiSTRUMENTAL NOTATION SYMBOL-1.1.2.3.4.7.8.9,2.3.4.5",
   ".6.7.9,30.2.6.7.8.9,4.0.2.3.5.7.8.9,5.0.1.2.3.4,7,8gKAI SYMBOLiPPA SYMBOLhORONIS",
   "hYATHOS BASE SIGNgLETTER ARCHAIC KOPPAnDIGAMMAnKOPPAnSAMPIoMALL CAPITAL GAMMA#LAMDA#OMEGA#PI",
   "$SI#RHOoTIGMAnYOThITRA SIGNhOWER NUMERAL SIGNhUNATE EPSILON SYMBOLnSIGMA SYMBOLgMETRETES SIGN",
   "hUSICAL LEIMMAgNUMERAL SIGNgOBOL SIGNhNE HALF SIGNt ALTERNATE FORMkQUARTER SIGNhUNKIA SIGNhXIA",
   "gPERISPOMENIhHI SYMBOLhI SYMBOLhROSGEGRAMMENIhSILIl AND OXIAqPERISPOMENIqVARIAgQUESTION MARK",
   "gREVERSED LUNATE EPSILON SYMBOLhHO SYMBOLkWITH STROKE SYMBOLgSINUSOID SIGN",
   "hMALL DOTTED LUNATE SIGMA SYMBOLmLETTER ALPHAy WITH DASIA, AND OXIA@ AND YPOGEGRAMMENI",
   "<PERISPOMENI~I AND YPOGEGRAMMENI<VARIA[ AND YPOGEGRAMMENI<YPOGEGRAMMENI&MACRON&OXIA",
   "+ AND YPOGEGRAMMENI&PERISPOMENI= AND YPOGEGRAMMENI(SILI, AND OXIA@ AND YPOGEGRAMMENI",
   "<PERISPOMENI~I AND YPOGEGRAMMENI<VARIA[ AND YPOGEGRAMMENI<YPOGEGRAMMENI&TONOS&VARIA",
   ", AND YPOGEGRAMMENI(RACHY&YPOGEGRAMMENIuRCHAIC KOPPA#SAMPItBETAtCHItDELTAuIGAMMAtEPSILON",
   "! WITH DASIA/ AND OXIA>VARIA)OXIA)PSILI/ AND OXIA>VARIA)TONOS)VARIAuTAw WITH DASIA* AND OXIA",
   "> AND YPOGEGRAMMENI:PERISPOMENI| AND YPOGEGRAMMENI:VARIA? AND YPOGEGRAMMENI:YPOGEGRAMMENI$OXIA",
   ") AND YPOGEGRAMMENI$PERISPOMENI; AND YPOGEGRAMMENI%SILI* AND OXIA> AND YPOGEGRAMMENI",
   ":PERISPOMENI| AND YPOGEGRAMMENI:VARIA? AND YPOGEGRAMMENI:YPOGEGRAMMENI$TONOS$VARIA",
   "* AND YPOGEGRAMMENI$YPOGEGRAMMENItFINAL SIGMAtGAMMAtHETAtIOTAx WITH DASIA+ AND OXIA",
   ";PERISPOMENI;VARIA&IALYTIKA: AND OXIA?PERISPOMENI?TONOS?VARIA%MACRON%OXIA%PERISPOMENI&SILI",
   "+ AND OXIA;PERISPOMENI;VARIA%TONOS%VARIA&RACHYtKAPPAuOPPAtLAMDAtMUtNUtOMEGAy WITH DASIA",
   ", AND OXIA@ AND YPOGEGRAMMENI<PERISPOMENI~I AND YPOGEGRAMMENI<VARIA[ AND YPOGEGRAMMENI",
   "<YPOGEGRAMMENI&OXIA+ AND YPOGEGRAMMENI&PERISPOMENI= AND YPOGEGRAMMENI(SILI, AND OXIA",
   "@ AND YPOGEGRAMMENI<PERISPOMENI~I AND YPOGEGRAMMENI<VARIA[ AND YPOGEGRAMMENI<YPOGEGRAMMENI",
   "&TONOS&VARIA, AND YPOGEGRAMMENI&YPOGEGRAMMENIvICRON! WITH DASIA/ AND OXIA>VARIA)OXIA)PSILI",
   "/ AND OXIA>VARIA)TONOS)VARIAtPAMPHYLIAN DIGAMMAuHIuIuSItRHOw WITH DASIA$PSILItSAMPIvNuHOuIGMA",
   "uTIGMAtTAUuHETAtUPSILON! WITH DASIA/ AND OXIA>PERISPOMENI>VARIA*IALYTIKA= AND OXIA]PERISPOMENI",
   "]TONOS]VARIA)MACRON)OXIA)PERISPOMENI*SILI/ AND OXIA>PERISPOMENI>VARIA)TONOS)VARIA*RACHYtXI",
   "tZETAmREVERSED DOTTED LUNATE SIGMA SYMBOLvLUNATE SIGMA SYMBOLhUBSCRIPT SMALL LETTER BETA%CHI",
   "%GAMMA%PHI%RHOhYMBOL TAU RHOgTALENT SIGNhHETA SYMBOLiREE OBOLS SIGNmQUARTERS SIGNhONOS",
   "hRYBLION BASE SIGNhWO OBOLS SIGNkTHIRDS SIGNgUPSILON WITH ACUTE AND HOOK SYMBOL",
   "tDIAERESIS AND HOOK SYMBOLtHOOK SYMBOLgVARIAhOCAL NOTATION SYMBOL-1%0%1%2%3%4%5%6%7%8%9$2%0%1",
   "%2%3%4$3$4$5%0%1%2%3%4$6$7$8$9gXESTES SIGNgYEAR SIGNhPOGEGRAMMENIgZERO SIGNeN APPLEgBOOKgHEART",
   "gSALADcIMACING FACEdNNING CAT FACE WITH SMILING EYESjFACEn WITH ONE LARGE AND ONE SMALL EYE",
   "tSMILING EYESuTAR EYEScOUP MARKgSEPARATORdWING HEARTbSbUARANI SIGNeDSMANcIDE DOGdTAR",
   "cJARATI ABBREVIATION SIGNjDIGIT EIGHTpFIVEqOURpNINEpONEpSEVENqIXpTHREEqWOpZEROjLETTER ArArIrU",
   "qBArHAqCArHAqDArDAsHArHAqEqGArHAqHAqIrIqJArHAqKArHAqLArLAqMAqNArGArNArYAqOqPArHAqRAqSArHArSA",
   "qTArHArTAsHAqUrUqVArOCALIC LzLyRzRqYAqZHAjOMjRUPEE SIGNjSIGN ANUSVARApVAGRAHAoCANDRABINDU",
   "pIRCLE NUKTA ABOVEoMADDAHoNUKTAoSHADDApUKUNoTHREE-DOT NUKTA ABOVEpWO-CIRCLE NUKTA ABOVEoVIRAMA",
   "qSARGAjVOWEL CANDRA EwOpSIGN AAvIvUuCANDRA E#OuEuIvIuOuUvUuVOCALIC L%L$R%R",
   "cNJALA GONDI DIGIT EIGHTuFIVEvOURuNINEuONEuSEVENvIXuTHREEvWOuZEROoLETTER AwAwIwUvBAwHAvCAwHA",
   "vDAwDAxHAwHAvEEvGAwHAvHAvIwIvJAwHAvKAwHAvLAwLAvMAvNAwGAvOOvPAwHAvRAvSAvTAwHAwTAxHAvUwUvVAvYA",
   "oOMoSIGN ANUSVARAtVISARGAoVIRAMApOWEL SIGN AA!I!UzEEzI!IzOOzU!UcRMUKHI ABBREVIATION SIGNkDDAK",
   "jDIGIT EIGHTpFIVEqOURpNINEpONEpSEVENqIXpTHREEqWOpZEROjEK ONKARjIRIjLETTER ArArIrUqBArHAqCArHA",
   "qDArDAsHArHAqEEqFAqGArHAsHAqHAqIrIqJArHAqKArHAsHAqLArLAqMAqNArGArNArYAqOOqPArHAqRArRAqSArHAqTA",
   "rHArTAsHAqUrUqVAqYAqZAjSIGN ADAK BINDIoBINDIoNUKTAoUDAAToVIRAMAqSARGAoYAKASHjTIPPIjURA",
   "jVOWEL SIGN AAvIvUuEEuIvIuOOuUvUaHADEScIR SPACEeCUTcLFWIDTH BLACK SQUAREkDOWNWARDS ARROW",
   "kFORMS LIGHT VERTICALkHANGUL FILLERrLETTER AzEyCHIEUCHzIEUCyEzOzUyHIEUHyIzEUNGyKHIEUKHzIYEOK",
   "&-SIOSyMIEUMyNIEUN%-CIEUC&HIEUHyOzEyPHIEUPHzIEUP%-SIOSyRIEUL%-HIEUH&KIYEOK&MIEUM&PHIEUPH(IEUP",
   "&SIOS&THIEUTHySIOSzSANGCIEUC%KIYEOK%PIEUP%SIOS%TIKEUTyTHIEUTHzIKEUTyUyWA!EzE!OzIyYA!EzE!OzIzO",
   "zUkIDEOGRAPHIC COMMAwFULL STOPkKATAKANA LETTER A!E!HA#E#I#O#U!I!KA#E#I#O#U!MA#E#I#O#U!N#A#E#I",
   "#O#U!O!RA#E#I#O#U!SA#E#I#MALL A)E)I)O)TU)U)YA*O*U#O#U!TA#E#I#O#U!U!WA#O!YA#O#UtMIDDLE DOT",
   "tSEMI-VOICED SOUND MARKtVOICED SOUND MARKs-HIRAGANA PROLONGED SOUND MARKkLEFT CORNER BRACKET",
   "oWARDS ARROWkRIGHT CORNER BRACKETpWARDS ARROWkUPWARDS ARROWkWHITE CIRCLEcMBURGERdMERg AND PICK",
   "lSICKLElWRENCHdSAeTER FACEcND WITH INDEX AND MIDDLE FINGERS CROSSEDqFINGER AND THUMB CROSSED",
   "eBAGgLLeSHAKEdGUL CHOSEONG CEONGCHIEUMCHIEUCH$IEUC#SIOS$SANGCIEUC)SIOSrHIEUCHx-HIEUHyKHIEUKH",
   "tTUEUMCHIEUCHzIEUCySIOSzSANGCIEUC%SIOSrIEUCv-IEUNGqFILLERqHIEUHv-SIOSqIEUNGv-CHIEUCHxIEUC",
   "wHIEUHwKIYEOKwMIEUMwPANSIOSxHIEUPHxIEUPwRIEULwSIOSwTHIEUTHxIKEUTqKAPYEOUNMIEUMyPHIEUPHzIEUP",
   "yRIEULySSANGPIEUPrHIEUKHrIYEOKw-TIKEUTqMIEUMv-KIYEOKwPIEUPwSIOSwTIKEUTqNIEUNv-CIEUCwHIEUH",
   "wKIYEOKwPIEUPwSIOSwTIKEUTqPANSIOSrHIEUPHx-HIEUHyPIEUPrIEUPv-CHIEUCHxIEUCwHIEUHwKHIEUKHxIYEOK",
   "wNIEUNwPHIEUPHwSIOS!-CIEUC#KIYEOK#PIEUP#THIEUTH$IKEUTxSANGSIOSwTHIEUTHxIKEUTqRIEULv-CIEUC",
   "wHIEUHwKAPYEOUNPIEUPxHIEUKHxIYEOKwMIEUMwNIEUNwPIEUPwSIOSxSANGKIYEOK#PIEUP#TIKEUTwTIKEUTqSIOS",
   "u-CHIEUCHwIEUCvHIEUHvIEUNGvKHIEUKHwIYEOKvMIEUMvNIEUNvPHIEUPHwIEUP!-KIYEOKvRIEULvSSANGSIOS",
   "vTHIEUTHwIKEUTrSANGCIEUC!-HIEUHvHIEUHvIEUNGvKIYEOKvNIEUNvPIEUPvRIEULvSIOSz-PIEUPvTHIEUTHwIKEUT",
   "vYEORINHIEUHqTHIEUTHrIKEUTw-CIEUCxKIYEOKxMIEUMxPIEUPxRIEULxSIOSqYEORINHIEUHsSIEUNG",
   "hDOUBLE DOT TONE MARKhFILLERhJONGSEONG CHIEUCHsIEUCw-PIEUPxSSANGPIEUPrHIEUHw-MIEUMxNIEUNxPIEUP",
   "xRIEULrIEUNGw-KHIEUKHyIYEOKxSSANGKIYEOKrKAPYEOUNMIEUMzPHIEUPH!IEUPzRIEULsHIEUKHsIYEOKx-CHIEUCH",
   "yHIEUHyKHIEUKHyNIEUNyPIEUPyRIEULySIOS$-KIYEOKrMIEUMw-CHIEUCHyIEUCxHIEUHxKIYEOKxNIEUNxPANSIOS",
   "yIEUP$-SIOSxRIEULxSIOSySANGNIEUN$SIOSrNIEUNw-CHIEUCHyIEUCxHIEUHxKIYEOKxPANSIOSxRIEULxSIOS",
   "xTHIEUTHyIKEUTrPANSIOSy-KAPYEOUNPIEUPzPIEUPsHIEUPHy-PIEUPzSIOSzTHIEUTHsIEUPw-CHIEUCHyIEUC",
   "xHIEUHxMIEUMxPHIEUPHxRIEUL$-PHIEUPHxSIOS#-TIKEUTxTIKEUTrRIEULw-HIEUHxKAPYEOUNPIEUPyHIEUKH",
   "yIYEOK%-HIEUH&SIOSxMIEUM$-HIEUH%KIYEOK%SIOSxNIEUNxPANSIOSyHIEUPHyIEUP$-HIEUH%PHIEUPH%SIOS",
   "%TIKEUTxSIOSySANGKIYEOK$SIOSxTHIEUTHyIKEUT%-HIEUHxYEORINHIEUH+-HIEUHzSIEUNGrSIOSv-CHIEUCHxIEUC",
   "wHIEUHwKAPYEOUNPIEUPxIYEOKwMIEUMwPANSIOSxIEUPwRIEULwTHIEUTHxIKEUTsSANGCIEUCwIEUNGwKIYEOKwMIEUM",
   "wNIEUNwPIEUPwRIEUL#-KHIEUKHwSIOS!-KIYEOK#TIKEUTwTIKEUT$-PIEUPwYESIEUNGrTHIEUTHsIKEUTx-CHIEUCH",
   "zIEUCyKIYEOKyPIEUPyRIEULySIOS$-KIYEOKyTHIEUTHrYEORINHIEUHtSIEUNGz-HIEUH!KHIEUKH#IYEOK!MIEUM",
   "!PANSIOS!SIOS#SANGKIYEOKiUNGSEONG As-EUtOtUsEsRAEAw-AxEyOxIxUrEsOt-EUuOuUsUt-AuEvOvUuOuU",
   "rFILLERrIs-AuRAEAtEUtItOu-ItUtYAv-OvEuEvOuOuUrOs-EuOtOu-ItUtYAvEuEvOsErSSANGARAEArUs-AuEtEO-EU",
   "tI-ItUtYEvOrWAtEsEtOsIrYAt-OuUuYOtEsEtOu-OvUvYAsIt-UsOt-AvEuEOuIuOuYAwEvEOsUt-AvEuEvOuIuOuUuYE",
   "wOhLETTER ApEpRAEAtEoCHIEUCHpIEUCoEpOpUoHIEUHoIpEUNGoKAPYEOUNMIEUMwPHIEUPHxIEUPwSSANGPIEUP",
   "pHIEUKHpIYEOKu-SIOSoMIEUMt-PANSIOSvIEUPuSIOSoNIEUNt-CIEUCuHIEUHuPANSIOSuSIOSuTIKEUToOpE",
   "oPANSIOSpHIEUPHpIEUPt-CIEUCuKIYEOKuSIOSy-KIYEOKzTIKEUTuTHIEUTHvIKEUToRIEULt-HIEUHuKIYEOK!-SIOS",
   "uMIEUMuPANSIOSvHIEUPHvIEUPz-SIOSuSIOSuTHIEUTHvIKEUTuYEORINHIEUHoSIOSs-CIEUCtKIYEOKtNIEUNtPIEUP",
   "tTIKEUTpSANGCIEUCtHIEUHtIEUNGtKIYEOKtNIEUNtPIEUPtSIOStTIKEUToTHIEUTHpIKEUToUoWAqEpEqOpIoYAqEpE",
   "qOrRINHIEUHqSIEUNGw-PANSIOSxSIOSpIpOq-IrYAtEpUq-IrYEtOhSINGLE DOT TONE MARKeZHOU NUMERAL EIGHT",
   "rFIVEsOURrNINErONErSEVENsIXrTENsHIRTYtREEsWENTYtOdIFI ROHINGYA DIGIT EIGHTwFIVExOURwNINEwONE",
   "wSEVENxIXwTHREExWOwZEROqLETTER AxBAxCAxDAyDAxFAxGAxHAxJAxKAyHAyINNA WA%YAxLAxMAxNAyGAyYAxPAxRA",
   "yRAxSAyHAxTAyTAxVAxWAxYAxZAqMARK NA KHONNAvSAKINqSIGN HARBAHAYvTAHALAxNAxSSIqVOWEL AwEwIwOwU",
   "dUNOO LETTER ApBApDApGApHApIpKApLApMApNAqGApPApRApSApTApUpWApYAiSIGN PAMUDPODiVOWEL SIGN ItU",
   "cPPY PERSON RAISING ONE HANDcRD DISKcTCHING CHICKdRAN LETTER ALEPHpYNoBETHoDALETH-RESHoGIMEL",
   "oHEqTHoKAPHoLAMEDHoMEMoNUNoPEoQOPHoSADHEqMEKHpHINoTAWpETHoWAWoYODHoZAYNhNUMBER FIVEoONE",
   "r HUNDREDoTENpWENTYbEADPHONEeSTONEj GRAVEYARD SYMBOLdR-NO-EVIL MONKEYeT DECORATIONgHANDS",
   "gWITH ARROWlRIBBONlTIP ON THE LEFTdVY AMPERSAND ORNAMENThRROW SHAFT WIDTH ONE# HALF$THIRD",
   "yTWO THIRDShSTERISKgBALLOT XhLACK CURVED DOWNWARDS AND RIGHTWARDS ARROW",
   "tUPWARDS AND RIGHTWARDS ARROWmHEARTl-FEATHERED NORTH EAST ARROWwRIGHTWARDS ARROW",
   "wSOUTH EAST ARROWgCHECK MARKjVRON SNOWFLAKEhIRCLEm WITH CIRCLE INSIDE",
   "sSTROKE AND TWO DOTS ABOVEmD SALTIREhONCAVE-POINTED BLACK RIGHTWARDS ARROW",
   "gDASHED TRIANGLE-HEADED RIGHTWARDS ARROWhIVISION SIGNhOLLAR SIGN",
   "iUBLE COMMA QUOTATION MARK ORNAMENTnTURNED COMMA QUOTATION MARK ORNAMENT",
   "iWNWARDS ARROW WITH EQUILATERAL ARROWHEAD#LARGE EQUILATERAL ARROWHEADgEIGHT POINTED BLACK STAR",
   "uPINWHEEL STARuRECTILINEAR BLACK STARmSPOKED ASTERISKmTEARDROP-SPOKED PROPELLER ASTERISK",
   "hQUALS SIGNhXCLAMATION MARK ORNAMENTxSYMBOLgFIVE POINTED BLACK STARlSPOKED ASTERISK",
   "hOUR BALLOON-SPOKED ASTERISKgGREEK CROSSgHEART EXCLAMATION MARK ORNAMENThORIZONTAL FILL",
   "gINTERROBANG ORNAMENTgLARGE CIRCLEiTIN CROSShEFT-POINTING ANGLE BRACKET ORNAMENT",
   "!QUOTATION MARK ORNAMENTkWARDS ARROW WITH EQUILATERAL ARROWHEAD#LARGE EQUILATERAL ARROWHEAD",
   "hIGATURE OPEN ET ORNAMENThOW DOUBLE COMMA QUOTATION MARK ORNAMENT",
   "kSINGLE COMMA QUOTATION MARK ORNAMENTjER RIGHT-SHADOWED WHITE RIGHTWARDS ARROWgMINUS SIGN",
   "hULTIPLICATION XgNORTH EAST ARROWrPOINTING BUD!VINE LEAFmWEST POINTING BUD!VINE LEAF",
   "gOPEN CENTRE CROSShUTLINED BLACK STARhVAL WITH OVAL INSIDEgPLUS SIGN",
   "gRIGHT-POINTING ANGLE BRACKET ORNAMENT#QUOTATION MARK ORNAMENTlWARDS ARROW",
   "w WITH EQUILATERAL ARROWHEAD$LARGE EQUILATERAL ARROWHEADhOUND-TIPPED RIGHTWARDS ARROWgSALTIRE",
   "iNS-SERIF INTERROBANG ORNAMENThCRIPT LIGATURE ET ORNAMENThINGLE COMMA QUOTATION MARK ORNAMENT",
   "nTURNED COMMA QUOTATION MARK ORNAMENTiX POINTED BLACK STARkSPOKED ASTERISKhOUTH EAST ARROW",
   "rPOINTING BUD!VINE LEAFmWEST POINTING BUD!VINE LEAFhPARKLEgTEARDROP-SHANKED RIGHTWARDS ARROW",
   "qPOKED ASTERISKwPINWHEEL ASTERISKhRIANGLE-HEADED RIGHTWARDS ARROWhWELVE POINTED BLACK STAR",
   "vPINWHEEL STARgUPPER RIGHT-SHADOWED WHITE RIGHTWARDS ARROW",
   "iWARDS ARROW WITH EQUILATERAL ARROWHEADzLARGE EQUILATERAL ARROWHEADgVERTICAL BAR",
   "gWEDGE-TAILED RIGHTWARDS ARROWhHITE CIRCLEmDOWN-POINTING TRIANGLEmSQUARE",
   "hIDE-HEADED RIGHTWARDS ARROWcBREW ACCENT ATNAH HAFUKHoDARGApEHIoETNAHTAoGERESHu MUQDAMrSHAYIM",
   "oILUYoMAHAPAKHpERKHAu KEFULApUNAHoOLEoPASHTAqZERoQADMAqRNEY PARAoREVIAoSEGOLpHALSHELET",
   "oTELISHA GEDOLAwQETANAqVIRpIPEHAoYERAH BEN YOMOqTIVoZAQEF GADOLuQATANqRQApINORhLETTER ALEF",
   "s WITH MAPIQyPATAHyQAMATSqTERNATIVE AYIN!PLUS SIGNpYINoBETr WITH DAGESHxRAFEoDALET",
   "t WITH DAGESHoFINAL KAFx WITH DAGESHuMEMuNUNuPEw WITH DAGESHuTSADIoGIMELt WITH DAGESHoHE",
   "q WITH MAPIQqToKAFr WITH DAGESHxRAFEoLAMEDt WITH DAGESHoMEMr WITH DAGESHoNUNr WITH DAGESHoPE",
   "q WITH DAGESHwRAFEoQOFr WITH DAGESHoRESHs WITH DAGESHoSAMEKHu WITH DAGESHpHINs WITH DAGESH",
   "& AND SHIN DOT.IN DOTySHIN DOTzIN DOToTAVr WITH DAGESHpETr WITH DAGESHpSADIt WITH DAGESHoVAV",
   "r WITH DAGESHxHOLAMoWIDE ALEFtDALETtFINAL MEMtHEtKAFtLAMEDtRESHtTAVoYODr WITH DAGESHxHIRIQ",
   "oZAYINt WITH DAGESHiIGATURE ALEF LAMEDqYIDDISH DOUBLE VAV(YODyVAV YODyYOD YOD PATAH",
   "hMARK LOWER DOTmMASORA CIRCLEmUPPER DOThPOINT DAGESH OR MAPIQnHATAF PATAHtQAMATStSEGOLoIRIQ",
   "oOLAMs HASER FOR VAVnJUDEO-SPANISH VARIKAnMETEGnPATAHnQAMATSt QATANoUBUTSnRAFEnSEGOLoHEVA",
   "pIN DOToIN DOTnTSEREiUNCTUATION GERESHwSHAYIMtMAQAFtNUN HAFUKHAtPASEQtSOF PASUQhYOD TRIANGLE",
   "cDGEHOGcLICOPTERdLSCHREIBER PAUSE SYMBOLdM SYMBOLeET WITH WHITE CROSScNTAIGANA LETTER A-1u2u3",
   "uWOsE-1u2u3u4u5u6sHA-1w0w1v2v3v4v5v6v7v8v9tE-1v2v3v4v5v6v7tI-1v2v3v4v5v6v7tO-1v2v3v4v5v6v7v8",
   "tU-1v2v3sI-1u2u3u4sKA-1w0w1v2v3v4v5v6v7v8v9vKEtE-1v2v3v4v5v6tI-1v2v3v4v5v6v7v8tO-1v2v3vKItU-1",
   "v2v3v4v5v6v7sMA-1v2v3v4v5v6v7tE-1v2vMAtI-1v2v3v4v5v6v7tO-1v2v3v4v5v6tU-1v2v3v4sN-MU-MO-1!2tA-1",
   "v2v3v4v5v6v7v8v9tE-1v2v3v4v5v6vKOtI-1v2v3v4v5v6v7vTEtO-1v2v3v4v5tU-1v2v3sO-1u2u3sRA-1v2v3v4",
   "tE-1v2v3v4tI-1v2v3v4v5v6v7tO-1v2v3v4v5v6tU-1v2v3v4v5v6sSA-1v2v3v4v5v6v7v8tE-1v2v3v4v5tI-1v2v3",
   "v4v5v6tO-1v2v3v4v5v6v7tU-1v2v3v4v5v6v7v8sTA-1v2v3v4tE-1v2v3v4v5v6v7v8v9tI-1v2v3v4v5v6v7tO-1v2",
   "v3v4v5v6vRAtU-1v2v3v4vTOsU-1u2u3u4u5sWA-1v2v3v4v5tE-1v2v3v4tI-1v2v3v4v5tO-1v2v3v4v5v6v7sYA-1v2",
   "v3v4v5vYOtO-1v2v3v4v5v6tU-1v2v3v4cRBdMITIAN CONJUGATE MATRIXcXAGRAM FOR ABUNDANCE",
   "oFTER COMPLETIONoPPROACHnBEFORE COMPLETIONoITING THROUGHoREAKTHROUGHnCOMING TO MEETpNFLICT",
   "qTEMPLATIONnDARKENING OF THE LIGHToECREASEpLIVERANCEpVELOPMENToIFFICULTY AT THE BEGINNING",
   "pSPERSIONoURATIONnENTHUSIASMnFELLOWSHIPoOLLOWINGnGATHERING TOGETHERoRACEpEAT POSSESSIONvWER",
   "uREPONDERANCEtTAMINGnHOLDING TOGETHERnINCREASEpFLUENCEpNER TRUTHqOCENCEnLIMITATIONnMODESTY",
   "pUTH CORNERSnOBSTRUCTIONoPPOSITIONqRESSIONnPEACEoROGRESSoUSHING UPWARDnRETREATqURNpVOLUTION",
   "nSMALL PREPONDERANCEtTAMINGoPLITTING APARToTANDSTILLnTHE ABYSMAL WATERsRMYtOUSING THUNDER",
   "rCAULDRONsLINGING FIREsREATIVE HEAVENrFAMILYrGENTLE WINDrJOYOUS LAKErKEEPING STILL MOUNTAIN",
   "rMARRYING MAIDENrRECEPTIVE EARTHrWANDERERsELLoREADINGnWAITINGoORK ON THE DECAYED",
   "nYOUTHFUL FOLLYbIBISCUScGH BRIGHTNESS SYMBOLfOCTET PRESETfVOLTAGE SIGNe-HEELED SHOE",
   "fSPEED TRAINq WITH BULLET NOSEcKING BOOTcNDU TEMPLEcPPOPOTAMUScRAGANA DIGRAPH YORI",
   "jITERATION MARKjLETTER ArRCHAIC WUyYEqBArErIrOrUqDArErIrOrUqEqGArErIrOrUqHArErIrOrUqIqKArErIrO",
   "rUqMArErIrOrUqNrArErIrOrUqOqPArErIrOrUqRArErIrOrUqSArErIrMALL AwEwIwKAxEwOwTUwUwWAxExIxOwYAxO",
   "xUrOrUqTArErIrOrUqUqVUqWArErIrOqYArOrUqZArErIrOrUjVOICED ITERATION MARKcSTORIC SITEbOCHOcLE",
   "dLOW QUILT SQUARE ORNAMENT$ IN BLACK SQUAREcMOTHETICcNEY POTfBEEcOKcPcRIZONTAL BAR",
   "mLACK HEXAGONrOCTAGONlELLIPSISlLINE EXTENSIONlMALE WITH STROKE SIGNlONE EIGHTH BLOCK-1358$2$3",
   "$4$5$6$7lSCAN LINE-1v3v7v9lTAB KEYoULATIONv SETwWITH JUSTIFICATIONmRAFFIC LIGHTdSEf FACE",
   "gRACINGcSPITALcT BEVERAGEeDOGePEPPEReSPRINGSdELcURGLASSj WITH FLOWING SANDdSEf BUILDINGoS",
   "gWITH GARDENbRYVNIA SIGNbTcJcSbUGGING FACEcNDRED POINTS SYMBOLcSHED FACEcTbYGIEAcPHENg BULLET",
   "hWITH DIAERESISg-MINUSgATION POINTdODIASTOLEcSTERESIS SYMBOLaI LOVE YOU HAND SIGNbCE CREAMfUBE",
   "eHOCKEY STICK AND PUCKeSKATEbDENTICAL TOm AND SLANTED PARALLELkWITH DOT ABOVEgFICATION CARD",
   "dOGRAPHIC ANNOTATION BOTTOM MARKxEARTH MARKxFIRST MARKyOUR MARK#TH MARKxHEAVEN MARK",
   "xLINKING MARKxMAN MARKyIDDLE MARKxONE MARKxREVERSE MARKxSECOND MARKxTHIRD MARKzREE MARK",
   "yOP MARKyWO MARKmCLOSING MARKnOMMAmDEPARTING TONE MARKoSCRIPTION CHARACTER ABOVE TO BELOW",
   "?MIDDLE AND BELOW+FULL SURROUND+LEFT TO MIDDLE AND RIGHT>RIGHT+OVERLAID+SURROUND FROM ABOVE",
   "_BELOW_LEFT|OWER LEFT_UPPER LEFT~PER RIGHTmENTERING TONE MARKmFULL STOPmHALF FILL SPACE",
   "mITERATION MARKmLEVEL TONE MARKmNUMBER ZEROmRISING TONE MARKmSPACEmTALLY MARK FIVEyOURxONE",
   "xTHREEyWOnELEGRAPH LINE FEED SEPARATOR SYMBOLwSYMBOL FOR APRIL+UGUST*DAY EIGHT>EEN:LEVEN",
   "/FIFTEEN;VE:OUR=TEEN/NINE=TEEN/ONE/SEVEN>TEEN:IX<TEEN/TEN:HIRTEEN>Y?-ONE;REE:WELVE<NTY?-EIGHT",
   "@FIVE[OUR@NINE@ONE@SEVEN[IX@THREE[WO;O+ECEMBER*FEBRUARY*HOUR EIGHT?EEN;LEVEN:FIFTEEN<VE;OUR",
   ">TEEN:NINE>TEEN:ONE:SEVEN?TEEN;IX=TEEN:TEN;HIRTEEN<REE;WELVE=NTY@-FOUR[ONE[THREE]WO<O:ZERO",
   "*JANUARY+ULY,NE*MARCH,Y*NOVEMBER*OCTOBER*SEPTEMBERmVARIATION INDICATORbMAGE OF",
   "i OR APPROXIMATELY EQUAL TOcPdERIAL ARAMAIC LETTER ALEPHzYINyBETHyDALETHyGIMELyHE!THyKAPH",
   "yLAMEDHyMEMyNUNyPEyQOPHyRESHySADHE!MEKHzHINyTAWzETHyWAWyYODHyZAYINrNUMBER ONE# HUNDRED",
   "$THOUSANDyTEN# THOUSANDzHREEzWENTY!OrSECTION SIGNbNBOX TRAYcCOMING ENVELOPEfPLETE INFINITY",
   "dREASE FONT SIZE SYMBOLiS ASfMENTcDdEXf POINTING AT THE VIEWERdIAN RUPEE SIGN",
   "eC SIYAQ ALTERNATE LAKH MARKmFRACTION ONE HALFzQUARTERvTHREE QUARTERSmLAKH MARK",
   "mNUMBER ALTERNATE ONE%TEN THOUSAND&WOtEIGHTy HUNDREDzTHOUSANDyYz THOUSANDtFIFTYy THOUSANDvVE",
   "x HUNDREDyTHOUSANDuORTYy THOUSANDvURx HUNDREDyTHOUSANDtKARORyANtLAKHxANtNINEx HUNDREDyTHOUSAND",
   "xTYz THOUSANDtONEw HUNDREDxTHOUSANDtPREFIXED EIGHT$FIVE%OUR$NINE$ONE$SEVEN%IX$THREE%WOtSEVEN",
   "y HUNDREDzTHOUSANDyTY! THOUSANDuIXw HUNDREDxTHOUSANDwTYy THOUSANDtTENw THOUSANDuHIRTY",
   "z THOUSANDvREEy HUNDREDzTHOUSANDuWENTYz THOUSANDvOw HUNDREDxTHOUSANDmPLACEHOLDERmRUPEE MARK",
   "cFINITYi NEGATED WITH VERTICAL BARdORMATION DESK PERSONmSEPARATOR FOURwONEwTHREExWOnOURCE",
   "cHIBIT ARABIC FORM SHAPINGiSYMMETRIC SWAPPINGcPUT SYMBOL FOR LATIN CAPITAL LETTERSxLETTERS",
   "xSMALL LETTERSrNUMBERSrSYMBOLScSCRIPTIONAL PAHLAVI LETTER ALEPH%BETH%DALETH%GIMEL%HE(TH%KAPH",
   "%LAMEDH%MEM-QOPH%NUN%PE%SADHE(MEKH&HIN%TAW&ETH%WAW-AYIN-RESH%YODH%ZAYINwNUMBER FOUR%ONE",
   ") HUNDRED*THOUSAND%TEN&HREE&WENTY(OqRTHIAN LETTER ALEPH(YIN&BETH&DALETH&GIMEL&HE)TH&KAPH",
   "&LAMEDH&MEM&NUN&PE&QOPH&RESH&SADHE)MEKH(HIN&TAW(ETH&WAW&YODH&ZAYINxNUMBER FOUR&ONE* HUNDRED",
   "+THOUSAND&TEN(HREE(WENTY)OdERTION SYMBOLcTEGRALi AROUND A POINT OPERATORkVERAGE WITH SLASH",
   "jEXTENSIONjWITH DOUBLE STROKEoINTERSECTIONoLEFTWARDS ARROW WITH HOOKoOVERBARoTIMES SIGN",
   "oUNDERBARqIONeRCALATEfIOR PRODUCTfLINEAR ANNOTATION ANCHORxSEPARATORxTERMINATOR",
   "gOCKED FEMALE AND MALE SIGNfROBANGfSECTIONm ABOVE BAR ABOVE UNIONtUNION",
   "nBESIDE AND JOINED WITH INTERSECTIONnWITH DOTsLOGICAL ANDsOVERBARcVERSE BULLETiCHECK MARK",
   "nER BOARD FILLiDOWNWARDS ARROW WITH TIP LEFTWARDSiMEDIUM SHADEiWHITE CIRCLE",
   "fTED EXCLAMATION MARKjINTERROBANGjLAZY SkOW KAVYKAt WITH KAVYKA ABOVEjOHM SIGNjPENTAGRAM",
   "jQUESTION MARKjUNDERTIEdISIBLE PLUSkSEPARATORkTIMESbZAKAYA LANTERNaJACK-O-LANTERN",
   "cPANESE BANK SYMBOLjCASTLEjDOLLSjGOBLINjINDUSTRIAL STANDARD SYMBOLjOGREjPOST OFFICE",
   "jSYMBOL FOR BEGINNERcRcVANESE CONSONANT SIGN CAKRAyKERETyPENGKALjDIGIT EIGHTpFIVEqOURpNINEpONE",
   "pSEVENqIXpTHREEqWOpZEROjLEFT RERENGGANlTTER ArIqBAs MURDAqCAs MURDAqDAs MAHAPRANArDA",
   "t MAHAPRANAqEqGAs MURDAqHAqIr KAWIrIqJAs MAHAPRANAqKAs MURDAtSASAKqLAqMAqNAs MURDArGAt LELET",
   "z RASWADIrYAt MURDAqOqPAs CEREKtMURDAqRAs AGUNGqSAs MAHAPRANAuURDAqTAs MURDArTAt MAHAPRANAqU",
   "qWAqYAjPADA ADEGs ADEGpNDAPoISEN-ISENoLINGSApUHURqNGSIoMADYAoPANGKATpISELEHoTIRTA TUMETES",
   "oWINDUlNGKONnRANGKEPjRIGHT RERENGGANjSIGN CECAKt TELUoLAYARoPANYANGGAoWIGNYAN",
   "jTURNED PADA PISELEHjVOWEL SIGN DIRGA MUREuPEPETuSUKUy MENDUTuTALINGwRUNGvOLONGuWULUy MELIK",
   "bEANSbIGSAW PUZZLE PIECEbOINcYSTICKbUGGLINGcNOcPITERaKAABAcITHI ABBREVIATION SIGNhDANDA",
   "iOUBLE DANDAoSECTION MARKhENUMERATION SIGNhLETTER ApApIpUoBApHAoCApHAoDApDAqDHAqHApHAoEoGApHA",
   "oHAoIpIoJApHAoKApHAoLAoMAoNApGApNApYAoOoPApHAoRApHAoSApHApSAoTApHApTAqHAoUpUoVAoYAhNUMBER SIGN",
   "s ABOVEhSECTION MARKiIGN ANUSVARAmCANDRABINDUmNUKTAmVIRAMAoSARGAhVOWEL SIGN AAtItUsEsItIsOsUtU",
   "sVOCALIC RcNGAROOeXI RADICAL AGAINqNDqRRIVEsOWqXEpBADGERrMBOOqEANqIGrRDrTTERqLACKrOODrUEqOAT",
   "rDYrLT OF CLOTHrNErWqRANCHrISTLErUSHpCARTrULDRONrVEqHILDqITYqLANsWrIFFrOTHESqOLORrMPARErRPSE",
   "rVERrWpDEATHrERqIPPERrSHsTINGUISHrVINATIONqO NOTrGrORrTsTED CLIFFwTENTrUBLE XrWN BOXqRAGONrUM",
   "rYpEARsTHrTqIGHTqMBROIDERYqNCLOSURErTERqVENtINGqYEpFACErNGrTHERqEATHERqIELDrGHTrRErSHqLUTErY",
   "qOOTqRAGRANTrOGqURpGATEqHOSTqOr SLOWLYrLDqRAINsSSpHAIRrLBERDsF TREE TRUNKrNDqEADsRTrMP",
   "qIDING ENCLOSUREqOOKrRNsSEpICEqNCHrSECTpJADErRpKNIFEpLACKrMEqEAFsTHERrEKrGSqIDrFErNEqONG",
   "t STRIDEpMANqEATrLONqILLETrNISTERqOONrRNINGsTARrUNDtTAINsTHpNETqOSErTpOLDqNEsSELFqPEN BOXrPOSE",
   "pPIGqLOWqOWERqRIVATErOFOUNDpRAINrPrTqEDqICErGHT OPEN BOXrVERqOOFqUNpSACRIFICIAL WINErLTrY",
   "qCHOLARrRIPTqEALrCONDrErLFqHEEPsLLrOOTsRT TAILED BIRDwHREADqICKNESSrLKqKINqLASHsVErICEqMALL",
   "qNOUTqOUNDqPEARsECHrIRITrOONrROUTqQUAREqTANDrEAMsPrONEsPtPINGqUNqWEETpTABLErLLrNNED LEATHERqEN",
   "qIGERrLEqONGUErOTHqRACKrEErIPODqURBANsTLEqWOs HANDSpUSEpVALLEYqILLAGEpWALKt ENCLOSURErTER",
   "qEAPONrSTqHEATrITEqINDsEqOMANrRKqRAPrONGpYELLOWdNADA AI LENGTH MARKiDIGIT EIGHToFIVEpOURoNINE",
   "oONEoSEVENpIXoTHREEpWOoZEROiLENGTH MARKkTTER AqAqIqUpBAqHApCAqHApDAqDArHAqHApEqEpFApGAqHApHApI",
   "qIpJAqHApKAqHApLAqLArLApMApNArKAARA POLLUqGAqNAqYApOqOpPAqHApRAqRApSAqHAqSApTAqHAqTArHApUqUpVA",
   "qOCALIC LyLxRyRpYAiSIGN ANUSVARAoVAGRAHAnCANDRABINDUnJIHVAMULIYAnNUKTAnSIDDHAM",
   "oPACING CANDRABINDUnUPADHMANIYAnVIRAMApSARGAiVOWEL SIGN AAuIuUtEuEtIuItOuOtUuUtVOCALIC L$L#R$R",
   "cTAKANA DIGRAPH KOTOjITERATION MARKjLETTER ArRCHAIC EyWUyYEzIqBArErIrOrUqDArErIrOrUqEqGArErIrO",
   "rUqHArErIrOrUqIqKArErIrOrUqMArErIsNNAN NASALIZED TONE-1:2:3:4:5:7:8xTONE-2$3$4$5$7$8rOrUqNrArE",
   "rIrOrUqOqPArErIrOrUqRArErIrOrUqSArErIrMALL AwEwHAxExIxOxUwIwKAxExUwMUwNxUwOwRAxExIxOxUwSIxUwTO",
   "xUwUwWAxExIxOwYAxOxUrOrUqTArErIrOrUqUqVArErIrOrUqWArErIrOqYArOrUqZArErIrOrUjMIDDLE DOT",
   "jVOICED ITERATION MARKi-HIRAGANA DOUBLE HYPHENsPROLONGED SOUND MARKsSEMI-VOICED SOUND MARK",
   "sVOICED SOUND MARKcYAH LI DIGIT EIGHTpFIVEqOURpNINEpONEpSEVENqIXpTHREEqWOpZEROjLETTER AqBAqCA",
   "qDAqGAqHArTAqIqKArHAqLAqMAqNArGArYAqOErOqPArHAqRAqSArHAqTArHAqVAqWAqYAqZAjSIGN CWIoSHYA",
   "jTONE CALYAt PLOPHUoPLOPHUjVOWEL EqEpOpUqEbELVIN SIGNcYdBOARDi AND MOUSEdCAP TEN",
   "bHAROSHTHI DIGIT FOURrONErTHREEsWOlFRACTION ONE HALFlLETTER AsBAtHAsCAtHAsDAtDAuHAtHAsGAtHAsHA",
   "sJAsKAtHAtKAsLAsMAsNAtNAtYAsPAtHAsRAsSAtHAtSAsTAtHAtTAuHAuTAvHAsVAtHAsYAsZAlNUMBER ONE HUNDRED",
   "wTHOUSANDsTENtWENTYlPUNCTUATION CIRCLEyRESCENT BARxDANDAyOTzUBLE DANDAxLINESyOTUSxMANGALAM",
   "xSMALL CIRCLElSIGN ANUSVARAqBAR ABOVEqCAUDAqDOT BELOWsUBLE RING BELOWqVISARGAlVIRAMA",
   "mOWEL LENGTH MARKrSIGN EwIwOwUwVOCALIC RcITAN SMALL SCRIPT CHARACTER-18B00+1+2+3+4+5+6+7+8+9+A",
   "+B+C+D+E+F*10+1+2+3+4+5+6+7+8+9+A+B+C+D+E+F*20+1+2+3+4+5+6+7+8+9+A+B+C+D+E+F*30+1+2+3+4+5+6+7",
   "+8+9+A+B+C+D+E+F*40+1+2+3+4+5+6+7+8+9+A+B+C+D+E+F*50+1+2+3+4+5+6+7+8+9+A+B+C+D+E+F*60+1+2+3+4",
   "+5+6+7+8+9+A+B+C+D+E+F*70+1+2+3+4+5+6+7+8+9+A+B+C+D+E+F*80+1+2+3+4+5+6+7+8+9+A+B+C+D+E+F*90+1",
   "+2+3+4+5+6+7+8+9+A+B+C+D+E+F*A0+1+2+3+4+5+6+7+8+9+A+B+C+D+E+F*B0+1+2+3+4+5+6+7+8+9+A+B+C+D+E+F",
   "*C0+1+2+3+4+5+6+7+8+9+A+B+C+D+E+F*D0+1+2+3+4+5+6+7+8+9+A+B+C+D+E+F*E0+1+2+3+4+5+6+7+8+9+A+B+C",
   "+D+E+F*F0+1+2+3+4+5+6+7+8+9+A+B+C+D+E+F)C00+1+2+3+4+5+6+7+8+9+A+B+C+D+E+F*10+1+2+3+4+5+6+7+8+9",
   "+A+B+C+D+E+F*20+1+2+3+4+5+6+7+8+9+A+B+C+D+E+F*30+1+2+3+4+5+6+7+8+9+A+B+C+D+E+F*40+1+2+3+4+5+6",
   "+7+8+9+A+B+C+D+E+F*50+1+2+3+4+5+6+7+8+9+A+B+C+D+E+F*60+1+2+3+4+5+6+7+8+9+A+B+C+D+E+F*70+1+2+3",
   "+4+5+6+7+8+9+A+B+C+D+E+F*80+1+2+3+4+5+6+7+8+9+A+B+C+D+E+F*90+1+2+3+4+5+6+7+8+9+A+B+C+D+E+F*A0",
   "+1+2+3+4+5+6+7+8+9+A+B+C+D+E+F*B0+1+2+3+4+5+6+7+8+9+A+B+C+D+E+F*C0+1+2+3+4+5+6+7+8+9+A+B+C+D+E",
   "+F*D0+1+2+3+4+5uFILLERcMER CURRENCY SYMBOL RIELgDIGIT EIGHTmFIVEnOURmNINEmONEmSEVENnIXmTHREE",
   "nWOmZEROgINDEPENDENT VOWEL LY!YyQAA!I!Q!UzEzI!IzOO TYPE ONE*TWOzU!K!U#VyRY!YgLETTER BAnCAoHApO",
   "oOnDAoOnHAnKAoHApOoOnLAoOnMOnNGOoNOoOoYOnPHApOoOnQAnROnSAoHAoSOnTAoHApOoOoTHAqOnVOnYO",
   "gSIGN AHSDAmTTHACANmVAKRAHASANYAlBANTOCnRIYOOSANnTHAMASATmEYYALlCAMNUC PII KUUHmOENGlKAKABAT",
   "mHANmOOMUUTlLEK TOOlMUUSIKATOANlNIKAHITlPHNAEK MUANlREAHMUKmOBATlSAMYOK SANNYAlTOANDAKHIAT",
   "mRIISAPlVIRIAMlYUUKALEAPINTUhYMBOL BEI KOETrROCoUON KOETsROCnDAP KOETrROCq-BEI KOETvROC",
   "sUON KOETwROCrMUOY KOETwROCrPII KOETvROCsRAM KOETwROCnLEK ATTAK BEIyUONxMUOYxPIIyRAM#-BEI%UON",
   "$MUOY$PIIxSONnMUOY KOETsROCnPATHAMASAToII KOETrROCoRAM KOETsROCr-BEI KOETwROCtUON KOETxROC",
   "sMUOY KOETxROCsPII KOETwROCnTUTEYASATgVOWEL INHERENT AAwQmSIGN AAsEsIsUrErIsEsIrOEsOrUsAsUrYsA",
   "sYcOJKI ABBREVIATION SIGNhDANDAiOUBLE DANDAoSECTION MARKhLETTER ApApIpUoBApBApHAoCApHAoDApDA",
   "qDAqHApHAoEoGApGApHAoHAoIoJApJAoKApHAoLApLAoMAoNApGApNApYAoOoPApHAoRAoSAoTApHApTAqHAoUoVAoYA",
   "hSECTION MARKiIGN ANUSVARAmNUKTAmSHADDAnUKUNmVIRAMAhVOWEL SIGN AAtItUsEsItIsOsUhWORD SEPARATOR",
   "cUDAWADI DIGIT EIGHTqFIVErOURqNINEqONEqSEVENrIXqTHREErWOqZEROkLETTER AsAsIsUrBAsBAsHArCAsHArDA",
   "sDAtDAtHAsHArErGAsGAsHArHArIsIrJAsHAsJArKAsHArLArMArNAsGAsNAsYArOrPAsHArRAsRArSAsHArTAsHAsTA",
   "tHArUsUrVArYAkSIGN ANUSVARApNUKTApVIRAMAkVOWEL SIGN AAwIwUvEvIwIvOvUwUbIMONOcP SIGNcSSe MARK",
   "eING CAT FACE WITH CLOSED EYESiFACEm WITH CLOSED EYESsSMILING EYEScTEcWIFRUITbNEELING PERSON",
   "cOTbOALAcREAN STANDARD SYMBOLbRONOSaL B BAR SYMBOLbAB COATdELcCROSSE STICK AND BALLcDDER",
   "dY BEETLEcNGUAGE TAGcO CANCELLATION MARKeDIGIT EIGHTkFIVElOURkNINEkONEkSEVENlIXkTHREElWOkZERO",
   "eELLIPSISeHO MOhNOeKO LAeLETTER BOlCOlDOlFO FAYpONoSUNGoTAMlHO SUNGoTAMlKHMU GOqNYOnO SUNGpTAM",
   "mOlLOn LINGpOOTlMOlNGOmOmYOlOlPALI BHAqCHAqDDAsHArHAqGHAqJHAqLLAqNNArYAqTTAsHAmHO SUNGpTAMmO",
   "lROlSANSKRIT SHAvSAmO SUNGoTAMlTHO SUNGpTAMmOlWOlYOeNIGGAHITAeSEMIVOWEL SIGN LOtNYO",
   "fIGN PALI VIRAMAeTONE MAI CATAWAnEKnTHOoIeVOWEL SIGN AqAqIqMqYpEqIpIqIpMAI KANuONpOpUqUpYqY",
   "cRGE BLUE CIRCLElDIAMONDlSQUAREhROWN CIRCLEmSQUAREgCIRCLEgDOWN TACKgGREEN CIRCLEmSQUARE",
   "gLEFT TRIANGLE OPERATORgONE DOT OVER TWO DOTS PUNCTUATIONkRING OVER TWO RINGS PUNCTUATION",
   "hRANGE CIRCLEnDIAMONDnSQUAREgPURPLE CIRCLEnSQUAREgRED CIRCLEkSQUARE",
   "gTRIPLE VERTICAL BAR OPERATORhWO DOTS OVER ONE DOT PUNCTUATIONkRINGS OVER ONE RING PUNCTUATION",
   "gUP TACKgYELLOW CIRCLEnSQUAREfR THANl OR EQUAL TOdI SIGNcST QUARTER MOONr SYMBOLsWITH FACE",
   "cTIN CAPITAL LETTER Aw WITH ACUTE$BREVE* AND ACUTE:DOT BELOW:GRAVE:HOOK ABOVE:TILDE$CARON",
   "%IRCUMFLEX: AND ACUTE?DOT BELOW?GRAVE?HOOK ABOVE?TILDE$DIAERESIS/ AND MACRON%OT ABOVE",
   "/ AND MACRON)BELOW&UBLE GRAVE$GRAVE$HOOK ABOVE$INVERTED BREVE$MACRON$OGONEK$RING ABOVE",
   ": AND ACUTE*BELOW$STROKE$TILDEwAwEx WITH ACUTE%MACRONwFRICAN DwLPHAwNGLICANA WwOwUwV",
   "x WITH HORIZONTAL BARwYvBw WITH DOT ABOVE)BELOW$FLOURISH$HOOK$LINE BELOW$STROKE$TOPBARwETA",
   "wROKEN LvCw WITH ACUTE$BAR$CARON%EDILLA, AND ACUTE%IRCUMFLEX$DOT ABOVE$HOOK$PALATAL HOOK",
   "$STROKEwHIwLOSED INSULAR GwONwUATRILLO& WITH COMMAvDw WITH CARON%EDILLA%IRCUMFLEX BELOW",
   "$DOT ABOVE)BELOW$HOOK$LINE BELOW$SHORT STROKE OVERLAY%MALL LETTER Z> WITH CARON%TROKE$TOPBARwZ",
   "x WITH CARONvEw WITH ACUTE$BREVE$CARON%EDILLA, AND BREVE%IRCUMFLEX: AND ACUTE?DOT BELOW?GRAVE",
   "?HOOK ABOVE?TILDE;BELOW$DIAERESIS%OT ABOVE)BELOW&UBLE GRAVE$GRAVE$HOOK ABOVE$INVERTED BREVE",
   "$MACRON+ AND ACUTE;GRAVE$OGONEK$STROKE$TILDE* BELOWwGYPTOLOGICAL AIN.LEFwNGwSHwTxHwZH",
   "y REVERSEDzWITH CARONvFw WITH DOT ABOVE$HOOK$STROKEvGw WITH ACUTE$BREVE$CARON%EDILLA%IRCUMFLEX",
   "$DOT ABOVE$HOOK$MACRON$OBLIQUE STROKE$STROKEwAMMAwHAwLOTTAL A%I%STOP%UvHw WITH BREVE BELOW",
   "$CARON%EDILLA%IRCUMFLEX$DESCENDER%IAERESIS%OT ABOVE)BELOW$HOOK$STROKEwALF HwENGwWAIRvI",
   "w WITH ACUTE$BREVE$CARON%IRCUMFLEX$DIAERESIS/ AND ACUTE%OT ABOVE)BELOW&UBLE GRAVE$GRAVE",
   "$HOOK ABOVE$INVERTED BREVE$MACRON$OGONEK$STROKE$TILDE* BELOWwNSULAR D%F%G%R%S%TwOTAwSvJ",
   "w WITH CIRCUMFLEX%ROSSED-TAIL$STROKEvKw WITH ACUTE$CARON%EDILLA$DESCENDER%IAGONAL STROKE",
   "%OT BELOW$HOOK$LINE BELOW$OBLIQUE STROKE$STROKE+ AND DIAGONAL STROKEvLw WITH ACUTE$BAR%ELT",
   "$CARON%EDILLA%IRCUMFLEX BELOW$DOT BELOW/ AND MACRON&UBLE BAR$HIGH STROKE$LINE BELOW$MIDDLE DOT",
   ",TILDE$SMALL LETTER J%TROKEwJvMw WITH ACUTE$DOT ABOVE)BELOW$HOOKwIDDLE SCOTS S#-WELSH LL+VvN",
   "w WITH ACUTE$CARON%EDILLA%IRCUMFLEX BELOW$DESCENDER%OT ABOVE)BELOW$GRAVE$LEFT HOOK%INE BELOW",
   "%ONG RIGHT LEG$OBLIQUE STROKE$SMALL LETTER J$TILDEwJvOw WITH ACUTE$BREVE$CARON%IRCUMFLEX",
   ": AND ACUTE?DOT BELOW?GRAVE?HOOK ABOVE?TILDE$DIAERESIS/ AND MACRON%OT ABOVE/ AND MACRON)BELOW",
   "&UBLE ACUTE,GRAVE$GRAVE$HOOK ABOVE&RN) AND ACUTE/DOT BELOW/GRAVE/HOOK ABOVE/TILDE",
   "$INVERTED BREVE$LONG STROKE OVERLAY&OP$MACRON+ AND ACUTE;GRAVE%IDDLE TILDE$OGONEK+ AND MACRON",
   "$STROKE+ AND ACUTE$TILDE* AND ACUTE:DIAERESIS:MACRONwIwLD POLISH OwMEGAwOwPEN E!OwUvP",
   "w WITH ACUTE$DOT ABOVE$FLOURISH$HOOK$SQUIRREL TAIL%TROKE+ THROUGH DESCENDERvQ",
   "w WITH DIAGONAL STROKE$STROKE THROUGH DESCENDERvRw ROTUNDAxWITH ACUTE$CARON%EDILLA$DOT ABOVE",
   ")BELOW/ AND MACRON&UBLE GRAVE$INVERTED BREVE$LINE BELOW$OBLIQUE STROKE$STROKE$TAIL",
   "wEVERSED C WITH DOT&E&HALF H&OPEN EwUM ROTUNDAvSw WITH ACUTE* AND DOT ABOVE$CARON",
   "* AND DOT ABOVE%EDILLA%IRCUMFLEX%OMMA BELOW$DOT ABOVE)BELOW/ AND DOT ABOVE$HOOK$OBLIQUE STROKE",
   "$SHORT STROKE OVERLAY%WASH TAILwALTILLOwCHWAxRIPT GwHARP SwIGMOID SwMALL CAPITAL I",
   "#Q WITH HOOK TAILvTw WITH CARON%EDILLA%IRCUMFLEX BELOW%OMMA BELOW$DIAGONAL STROKE%OT ABOVE",
   ")BELOW$HOOK$LINE BELOW$RETROFLEX HOOK$STROKEwHORN! WITH STROKE: THROUGH DESCENDERwONE FIVE!SIX",
   "!TWOwRESILLOwURNED A%LPHA$H$INSULAR G$K$L$M$T$VwZvUw BARxWITH ACUTE$BREVE$CARON%IRCUMFLEX",
   ": BELOW$DIAERESIS/ AND ACUTE>CARON>GRAVE>MACRON:BELOW%OT BELOW&UBLE ACUTE,GRAVE$GRAVE",
   "$HOOK ABOVE&RN) AND ACUTE/DOT BELOW/GRAVE/HOOK ABOVE/TILDE$INVERTED BREVE$MACRON",
   "+ AND DIAERESIS$OGONEK$RING ABOVE$STROKE$TILDE* AND ACUTE+BELOWwPSILONvVw WITH DIAGONAL STROKE",
   "%OT BELOW$HOOK$TILDEwENDwISIGOTHIC ZwOLAPUK AE%OE%UEwYvWw WITH ACUTE$CIRCUMFLEX$DIAERESIS",
   "%OT ABOVE)BELOW$GRAVE$HOOKwYNNvXw WITH DIAERESIS%OT ABOVEvYw WITH ACUTE$CIRCUMFLEX$DIAERESIS",
   "%OT ABOVE)BELOW$GRAVE$HOOK) ABOVE$LOOP$MACRON$STROKE$TILDEwOGHvZw WITH ACUTE$CARON%IRCUMFLEX",
   "$DESCENDER%OT ABOVE)BELOW$HOOK$LINE BELOW$PALATAL HOOK$STROKE%WASH TAILpIGATURE IJxOEhROSS",
   "gEPIGRAPHIC LETTER ARCHAIC MyI LONGAzNVERTED MyREVERSED F*PySIDEWAYS IgLETTER AIN",
   "oLVEOLAR CLICKnBIDENTAL PERCUSSIVEpLABIAL CLICKwPERCUSSIVEnDENTAL CLICKnGLOTTAL STOP",
   "z WITH STROKEnINVERTED GLOTTAL STOP+ WITH CURL<STROKEnLATERAL CLICK",
   "nPHARYNGEAL VOICED FRICATIVEnRETROFLEX CLICK$ WITH RETROFLEX HOOKpVERSED ESH LOOP",
   "wGLOTTAL STOP WITH STROKEnSINOLOGICAL DOToMALL CAPITAL A$E#B$ARRED B#C#D#E$TH$ZH#F#G",
   "$ WITH HOOK#H#I$NVERTED R#J#K#L$ WITH BELT+STROKE#M#N#O$E$PEN O$U#P#Q#R$ WITH RIGHT LEG",
   "$EVERSED N.R$UM#S#T$URNED E+G+K+M+R#U#V#W#Y#ZoTRETCHED Cy WITH CURLnTWO WITH STROKE",
   "nVOICED LARYNGEAL SPIRANTnWYNNnYRgSMALL CAPITAL LETTER I WITH STROKE#U WITH STROKEmLETTER A",
   "u REVERSED-SCHWAvWITH ACUTE!BREVE( AND ACUTE.DOT BELOW.GRAVE.HOOK ABOVE.TILDE!CARON#IRCUMFLEX",
   ". AND ACUTE=DOT BELOW=GRAVE=HOOK ABOVE=TILDE!DIAERESIS, AND MACRON#OT ABOVE, AND MACRON&BELOW",
   "$UBLE GRAVE!GRAVE!HOOK ABOVE!INVERTED BREVE!MACRON!OGONEK!RETROFLEX HOOK#IGHT HALF RING",
   "$NG ABOVE. AND ACUTE(BELOW!STROKE!TILDEuAuEv WITH ACUTE#MACRONuLPHAy WITH RETROFLEX HOOK",
   "uNGLICANA WuOuUuVv WITH HORIZONTAL BARuYtBu WITH DOT ABOVE&BELOW!FLOURISH!HOOK!LINE BELOW",
   "!MIDDLE TILDE!PALATAL HOOK!STROKE!TOPBARuARRED ALPHA!E!OvSELINE ESHuETAuLACKLETTER E(O",
   ") WITH STROKEuOTTOM HALF OuROKEN LtCu WITH ACUTE!BAR!CARON#EDILLA* AND ACUTE#IRCUMFLEX#URL",
   "!DOT ABOVE!HOOK!PALATAL HOOK!RETROFLEX HOOK!STROKEuHIw WITH LOW LEFT SERIF)RIGHT RING",
   "uLOSED INSULAR G!OMEGA#PEN E!REVERSED OPEN EuONuUATRILLO$ WITH COMMAtDu WITH CARON#EDILLA",
   "#IRCUMFLEX BELOW#URL!DOT ABOVE&BELOW!HOOK& AND TAIL!LINE BELOW!MIDDLE TILDE!PALATAL HOOK",
   "!SHORT STROKE OVERLAY#TROKE!TAIL#OPBARuB DIGRAPHuELTAvZH DIGRAPH( WITH PALATAL HOOK",
   "/RETROFLEX HOOKuOTLESS I#J$ WITH STROKE< AND HOOKvUBLE R# WITH CROSSED-TAIL!THORN!WYNNuUMuZ",
   "v DIGRAPH% WITH CURL,RETROFLEX HOOKwWITH CARONtEu WITH ACUTE!BREVE!CARON#EDILLA* AND BREVE",
   "#IRCUMFLEX. AND ACUTE=DOT BELOW=GRAVE=HOOK ABOVE=TILDE/BELOW!DIAERESIS#OT ABOVE&BELOW",
   "$UBLE GRAVE!FLOURISH!GRAVE!HOOK ABOVE!INVERTED BREVE!MACRON) AND ACUTE/GRAVE!NOTCH!OGONEK",
   "!RETROFLEX HOOK!STROKE!TILDE( BELOWuGYPTOLOGICAL AIN+LEFuNGw WITH CROSSED-TAIL$PALATAL HOOKuSH",
   "w WITH CURL$DOUBLE BAR: AND CURL$PALATAL HOOK$RETROFLEX HOOKuTvHuZHw REVERSEDxWITH CARON%URL",
   "$PALATAL HOOK$RETROFLEX HOOK$TAILtFu WITH DOT ABOVE!HOOK!MIDDLE TILDE!PALATAL HOOK!STROKE",
   "uENG DIGRAPH( WITH TRILLtGu WITH ACUTE!BREVE!CARON#EDILLA#IRCUMFLEX!DOT ABOVE!HOOK!MACRON",
   "!OBLIQUE STROKE!PALATAL HOOK!STROKEuAMMAuHAuLOTTAL A#I#STOP#UtHu WITH BREVE BELOW!CARON#EDILLA",
   "#IRCUMFLEX!DESCENDER#IAERESIS#OT ABOVE&BELOW!HOOK!LINE BELOW!PALATAL HOOK!STROKEuALF HuENG",
   "x WITH HOOKuVtIu WITH ACUTE!BREVE!CARON#IRCUMFLEX!DIAERESIS, AND ACUTE#OT BELOW$UBLE GRAVE",
   "!GRAVE!HOOK ABOVE!INVERTED BREVE!MACRON!OGONEK!RETROFLEX HOOK!STROKE) AND RETROFLEX HOOK!TILDE",
   "( BELOWuNSULAR D#F#G#R#S#TvVERTED ALPHA$OEuOTAx WITH STROKEwIFIED EuStJu WITH CARON#IRCUMFLEX",
   "#ROSSED-TAIL!STROKEtKu WITH ACUTE!CARON#EDILLA!DESCENDER#IAGONAL STROKE#OT BELOW!HOOK",
   "!LINE BELOW!OBLIQUE STROKE!PALATAL HOOK!STROKE) AND DIAGONAL STROKEuRAtLu WITH ACUTE!BAR#ELT",
   "& AND PALATAL HOOK!CARON#EDILLA#IRCUMFLEX BELOW#URL!DOT BELOW, AND MACRON$UBLE BAR",
   "*MIDDLE TILDE!FISHHOOK!HIGH STROKE!INVERTED LAZY S!LINE BELOW!MIDDLE DOT*RING*TILDE",
   "!PALATAL HOOK!RETROFLEX HOOK< AND BELT!STROKEuAMBDA WITH STROKEuENIS FvZHx WITH RETROFLEX HOOK",
   "uJuONG Sz WITH DIAGONAL STROKE)OT ABOVE(HIGH STROKEuS DIGRAPHuUMuZ DIGRAPHtMu WITH ACUTE",
   "!CROSSED-TAIL!DOT ABOVE&BELOW!HOOK!MIDDLE TILDE!PALATAL HOOKuIDDLE SCOTS Sz-WELSH LL)VuUMtN",
   "u PRECEDED BY APOSTROPHEvWITH ACUTE!CARON#EDILLA#IRCUMFLEX BELOW#ROSSED-TAIL#URL!DESCENDER",
   "#OT ABOVE&BELOW!GRAVE!LEFT HOOK#INE BELOW#ONG RIGHT LEG!MIDDLE TILDE!OBLIQUE STROKE",
   "!PALATAL HOOK!RETROFLEX HOOK!TILDEuJuUMtOu WITH ACUTE!BREVE!CARON#IRCUMFLEX. AND ACUTE",
   "=DOT BELOW=GRAVE=HOOK ABOVE=TILDE!DIAERESIS, AND MACRON#OT ABOVE, AND MACRON&BELOW$UBLE ACUTE",
   "*GRAVE!GRAVE!HOOK ABOVE$RN& AND ACUTE,DOT BELOW,GRAVE,HOOK ABOVE,TILDE!INVERTED BREVE",
   "!LONG STROKE OVERLAY$OP$W RING INSIDE!MACRON) AND ACUTE/GRAVE!OGONEK) AND MACRON",
   "!RETROFLEX HOOK!STROKE) AND ACUTE!TILDE( AND ACUTE.DIAERESIS.MACRONuIuLD POLISH OuMEGAuOuPEN E",
   "z WITH RETROFLEX HOOKyOz WITH RETROFLEX HOOK(STROKEzEuUtPu WITH ACUTE!DOT ABOVE!FLOURISH!HOOK",
   "!MIDDLE TILDE!PALATAL HOOK!SQUIRREL TAIL#TROKE) THROUGH DESCENDERuHItQu WITH DIAGONAL STROKE",
   "!HOOK& TAIL!STROKE THROUGH DESCENDERuP DIGRAPHtRu ROTUNDAvWITH ACUTE!CARON#EDILLA#ROSSED-TAIL",
   "!DOT ABOVE&BELOW, AND MACRON$UBLE GRAVE!FISHHOOK+ AND MIDDLE TILDE;PALATAL HOOK!INVERTED BREVE",
   "!LINE BELOW#ONG LEG!MIDDLE TILDE!OBLIQUE STROKE!PALATAL HOOK!STROKE!TAILzOUT HANDLEuAMS HORN",
   "uEVERSED C% WITH DOT$E%NG$HALF H$K$OPEN E+ WITH HOOK<RETROFLEX HOOK$R WITH FISHHOOK$SCRIPT G",
   "uUMw ROTUNDAtSu WITH ACUTE( AND DOT ABOVE!CARON( AND DOT ABOVE#EDILLA#IRCUMFLEX#OMMA BELOW#URL",
   "!DOT ABOVE&BELOW, AND DOT ABOVE!HOOK!MIDDLE TILDE!OBLIQUE STROKE!PALATAL HOOK",
   "!SHORT STROKE OVERLAY#WASH TAILuAKHA YATvLTILLOuCHWAy WITH HOOK&RETROFLEX HOOKvRIPT G",
   "# WITH CROSSED-TAIL!R# WITH RINGuHARP SuIDEWAYS DIAERESIZED U$O% WITH STROKE%PEN O$TURNED M$U",
   "vGMOID SuQUAT REVERSED ESHuTIRRUP RtTu WITH CARON#EDILLA#IRCUMFLEX BELOW#OMMA BELOW#URL",
   "!DIAERESIS%GONAL STROKE#OT ABOVE&BELOW!HOOK& AND RETROFLEX HOOK!LINE BELOW!MIDDLE TILDE",
   "!PALATAL HOOK!RETROFLEX HOOK!STROKEuAILLESS PHIuC DIGRAPH WITH CURLuESH DIGRAPH",
   "( WITH PALATAL HOOK/RETROFLEX HOOKuH WITH STRIKETHROUGHvORNy WITH STROKE. THROUGH DESCENDER",
   "uONE FIVEySIXyTWOvP HALF OuRESILLOuS DIGRAPH% WITH RETROFLEX HOOKuUMvRNED A#E#LPHA!DELTA!E!G!H",
   "# WITH FISHHOOK= AND TAIL!I#NSULAR G!K!L!M# WITH LONG LEG!O OPEN-O+ WITH STROKE#E",
   "$ WITH HORIZONTAL STROKE+STROKE#PEN E!R# WITH HOOK*LONG LEG= AND RETROFLEX HOOK*MIDDLE TILDE",
   "*PALATAL HOOK*TAIL!T# WITH CURL!UI!V!W!Y# WITH BELTuZtUu BARy WITH SHORT RIGHT LEGvWITH ACUTE",
   "!BREVE!CARON#IRCUMFLEX. BELOW!DIAERESIS, AND ACUTE<CARON<GRAVE<MACRON.BELOW#OT BELOW",
   "$UBLE ACUTE*GRAVE!GRAVE!HOOK ABOVE$RN& AND ACUTE,DOT BELOW,GRAVE,HOOK ABOVE,TILDE",
   "!INVERTED BREVE!LEFT HOOK!MACRON) AND DIAERESIS!OGONEK!RETROFLEX HOOK#ING ABOVE",
   "!SHORT RIGHT LEG#TROKE!TILDE( AND ACUTE)BELOWuEuIuMuOuPSILON! WITH STROKEtVu WITH CURL",
   "!DIAGONAL STROKE#OT BELOW!HOOK!PALATAL HOOK!RIGHT HOOK!TILDEuENDuISIGOTHIC ZuOLAPUK AE#OE#UEuY",
   "tWu WITH ACUTE!CIRCUMFLEX!DIAERESIS#OT ABOVE&BELOW!GRAVE!HOOK!RING ABOVEtXu WITH DIAERESIS",
   "#OT ABOVE!LONG LEFT LEG; AND LOW RIGHT RING<WITH SERIF$W RIGHT RING!PALATAL HOOKtYu WITH ACUTE",
   "!CIRCUMFLEX!DIAERESIS#OT ABOVE&BELOW!GRAVE!HOOK& ABOVE!LOOP!MACRON!RING ABOVE!SHORT RIGHT LEG",
   "#TROKE!TILDEuOGHtZu WITH ACUTE!CARON#IRCUMFLEX#URL!DESCENDER#OT ABOVE&BELOW!HOOK!LINE BELOW",
   "!MIDDLE TILDE!PALATAL HOOK!RETROFLEX HOOK!STROKE#WASH TAILnIGATURE FFxIxLwIwLvIJvLONG S TvOE",
   "vSThUBSCRIPT SMALL LETTER A%E%H%I%J%K%L%M%N%O%P%R%S&CHWA%T%U%V%XbEAF FLUTTERING IN WIND",
   "eY GREENcDGERcFT AND LOWER AND RIGHT TRIANGULAR THREE QUARTERS BLOCKpONE EIGHTH BLOCK",
   "jRIGHT DOUBLE TURNSTILEpTACKqRIANGULAR HALF BLOCK",
   "jUPPER AND RIGHT TRIANGULAR THREE QUARTERS BLOCKpONE EIGHTH BLOCKhGER BUBBLEiLE BRACKET",
   "s WITH DOTgRC LESS-THAN BRACKEThROW WITH CIRCLED PLUSqSMALL CIRCLE",
   "fBARB DOWN RIGHT BARB DOWN HARPOON!UP HARPOONkUP RIGHT BARB DOWN HARPOONyUP HARPOON",
   "gLACK LENTICULAR BRACKETlTORTOISE SHELL BRACKETfCEILINGgLOSED ENTRYgORNER BRACKETgURLY BRACKET",
   "s LOWER HOOKtMIDDLE PIECEtUPPER HOOKfDOTTED SUBSTITUTION BRACKEThUBLE ANGLE BRACKET",
   "mPARENTHESISmQUOTATION MARKmWIGGLY FENCEfFISH TAILhVE EIGHTHS BLOCKgLOORfHALF BLACK CIRCLE",
   "qSTARmOCKkCIRCLEq WITH DOTwFOUR DOTSwTHREE DOTSxWO DOTSkFOLDER",
   "kINVERSE MEDIUM SHADE AND RIGHT HALF BLOCKkMEDIUM SHADEkRUNNING MANhND TELEPHONE RECEIVER",
   "fLOW PARAPHRASE BRACKETgUGGAGEfMULTIMAPfNORMAL FACTOR SEMIDIRECT PRODUCTfONE EIGHTH BLOCK",
   "jQUARTER BLOCKgUTER JOINfPARENTHESISq EXTENSIONrLOWER HOOKrUPPER HOOKfRAISED OMISSION BRACKET",
   "gIGHT ARROWq THROUGH SMALL CIRCLErWITH DOUBLE VERTICAL STROKEwSTROKEwVERTICAL STROKE",
   "lBLACK ARROWlDOUBLE ARROWx WITH STROKE%VERTICAL STROKElOPEN-HEADED ARROWlSANS-SERIF ARROW",
   "lTRIANGLE-HEADED ARROWlWAVE ARROWmHITE ARROWfS-SHAPED BAG DELIMITERgEMIDIRECT PRODUCT",
   "hVEN EIGHTHS BLOCKgIDEWAYS U BRACKEThNGLE QUOTATION MARKgPEECH BUBBLEgQUARE BRACKETt EXTENSION",
   "uLOWER CORNERuUPPER CORNERuWITH DOUBLE STROKEzQUILLzSTROKEzTICK IN BOTTOM CORNER*TOP CORNER",
   "zUNDERBARgUBSTITUTION BRACKETfTACKgHIRD WHITE RIGHT POINTING INDEXhOUGHT BUBBLE",
   "hREE EIGHTHS BLOCKlQUARTERS BLOCKgORTOISE SHELL BRACKETgRANSPOSITION BRACKET",
   "hIANGLE BESIDE VERTICAL BARlULAR ONE QUARTER BLOCKfVERTICAL BAR WITH QUILLpOX LINE",
   "fWHITE CORNER BRACKETmURLY BRACKETlLENTICULAR BRACKETlPARENTHESISlSQUARE BRACKET",
   "lTORTOISE SHELL BRACKETgIGGLY FENCEgRITING HANDe-FACING ARMENIAN ETERNITY SIGNmFIST",
   "mSVASTI SIGNx WITH DOTSfHANDED INTERLACED PENTAGRAMfPOINTING ANGLE BRACKET",
   "oCURVED ANGLE BRACKEToDOUBLE ANGLE QUOTATION MARKoMAGNIFYING GLASS",
   "fSHADED WHITE RIGHTWARDS ARROWgIDE ARC ANTICLOCKWISE ARROWfTO-RIGHT EMBEDDINGoISOLATEoMARK",
   "oOVERRIDEeWARDS ARROWp ABOVE ALMOST EQUAL TOwREVERSE ALMOST EQUAL TO&TILDE OPERATOR",
   "wSHORT RIGHTWARDS ARROWwTILDE OPERATORrND UPPER AND LOWER ONE EIGHTH BLOCKqFROM BAR",
   "y TO BLACK DIAMONDqOVER RIGHTWARDS ARROWqTHROUGH LESS-THANySUBSETyXrO BAR",
   "w OVER RIGHTWARDS ARROW TO BARuLACK DIAMONDqWITH DOTTED STEMxUBLE VERTICAL STROKE",
   "vEQUILATERAL ARROWHEADvHOOKvLARGE TRIANGLE ARROWHEADwOOPvMEDIUM TRIANGLE ARROWHEAD",
   "vNOTCHED TAILvPLUS BELOWvSMALL EQUILATERAL ARROWHEAD#TRIANGLE ARROWHEADwTROKEvTAIL",
   "z WITH DOUBLE VERTICAL STROKE(VERTICAL STROKEwIP DOWNWARDSzUPWARDSvVERTICAL STROKEp-TAIL",
   "kBACK-TILTED SHADOWED WHITE ARROWlLACK ARROWqCIRCLED WHITE ARROWlOTTOM-SHADED WHITE ARROW",
   "kCOMPRESSED ARROWkDASHED ARROWlOUBLE ARROWw FROM BARxWITH STROKE$VERTICAL STROKEw-TAIL",
   "rDASH ARROWkFINGER-POST ARROWlRONT-TILTED SHADOWED WHITE ARROWkHAND",
   "mRPOON OVER RIGHTWARDS HARPOONsWITH BARB DOWN ABOVE RIGHTWARDS HARPOON WITH BARB DOWN",
   "*BELOW LONG DASH*FROM BAR*TO BAR)WARDS$UP ABOVE LEFTWARDS HARPOON WITH BARB DOWN:ONG DASH",
   "/RIGHTWARDS HARPOON WITH BARB UP(FROM BAR(TO BAR&WARDSlEAVY ARROWqCOMPRESSED ARROW",
   "kLEFT-SHADED WHITE ARROWkOPEN-HEADED ARROWkPAIRED ARROWSkQUADRUPLE ARROW",
   "kRIGHT-SHADED WHITE ARROWlOCKETkSANS-SERIF ARROWlQUARED ARROWnIGGLE ARROW",
   "kTOP SHADED WHITE ARROWlRIANGLE ARROWHEADs-HEADED ARROW( OVER RIGHTWARDS TRIANGLE-HEADED ARROW",
   ")TO BAR)WITH BOLD SHAFT/DOUBLE HORIZONTAL STROKE@VERTICAL STROKE/HEAVY SHAFT",
   "/LONG TIP DOWNWARDS]UPWARDS/MEDIUM SHAFT/NARROW SHAFT/VERY HEAVY SHAFT!DASHED ARROW",
   "!PAIRED ARROWSnPLE ARROWrDASH ARROWlWO HEADED ARROWn-HEADED ARROW FROM BAR",
   "#WITH DOUBLE VERTICAL STROKE)TAIL. WITH DOUBLE VERTICAL STROKE>VERTICAL STROKE",
   "*RIANGLE ARROWHEADS)VERTICAL STROKEvTRIPLE DASH ARROWkWAVE ARROWlHITE ARROW",
   "v WITHIN TRIANGLE ARROWHEADcGcMONcOdPARDcPCHA CONSONANT SIGN KxANGwLwMwNxYIN-DOwPwRwT",
   "hDIGIT EIGHTnFIVEoOURnNINEnONEnSEVENoIXnTHREEoWOnZEROhLETTER AoBApLAoCApHAoDApDApZAoFApLAoGA",
   "pLAoHApLAoJAoKApHApLAoLAoMApLAoNApGApYAoPApHApLAoRAoSApHAoTApHApSAqHApTAqHAoVAoWAoYA",
   "hPUNCTUATION CER-WAtNYET THYOOM TA-ROLtTA-ROLuSHOOKz CER-WAhSIGN NUKTAmRANiUBJOINED LETTER RA",
   "yYAhVOWEL SIGN AAsEsIsOtOsUtUcSS-THAN ABOVE DOUBLE-LINE EQUAL ABOVE GREATER-THAN",
   "qGREATER-THAN ABOVE DOUBLE-LINE EQUALqLEFTWARDS ARROWqSIMILAR ABOVE GREATER-THANyOR EQUAL",
   "rLANTED EQUAL ABOVE GREATER-THAN ABOVE SLANTED EQUALlND NOT APPROXIMATE",
   "oSINGLE-LINE NOT EQUAL TOkBUT NOT EQUAL TOvIVALENT TOkCLOSED BY CURVEz ABOVE SLANTED EQUAL",
   "kEQUAL TO OR GREATER-THANkOR APPROXIMATEnEQUAL TOqIVALENT TOnGREATER-THANnSLANTED EQUAL TO",
   "% WITH DOT ABOVE@ RIGHT;INSIDElVER EQUAL TOkSIGNkWITH CIRCLE INSIDEpDOTpQUESTION MARK ABOVE",
   "cVEL SLIDERbFbIBRAcGATURE OPEN ET ORNAMENTdHT CHECK MARKgEIGHT SPOKED ASTERISK",
   "gFIVE POINTED BLACK STARlSPOKED ASTERISKhOUR POINTED BLACK CUSPzSTARgGREEK CROSS",
   "gLEFT TORTOISE SHELL BRACKET ORNAMENTgRAILhIGHT TORTOISE SHELL BRACKET ORNAMENTgSALTIREhHADE",
   "hIX SPOKED ASTERISKgTHREE POINTED BLACK STARhWELVE POINTED BLACK STARgVERTICAL BAR",
   "gWHITE SQUAREfNINGj MOODo BUBBLEcMBU DIGIT EIGHTmFIVEnOURmNINEmONEmSEVENnIXmTHREEnWOmZERO",
   "gEXCLAMATION MARKgLETTER BAoHAnCAoHAnDAoHAnGAoHAoYANnHAnJAoHAnKAoHAnLAnMAnNAoGAnPAoHAnRAnSAoHA",
   "oSAnTAoHAoRAnWAnYApNgQUESTION MARKgSIGN KEMPHRENGlLOOlMUKPHRENGlSA-IhMALL LETTER ANUSVARAtKA",
   "tLAtMAtNAuGAtPAtRAtTAhUBJOINED LETTER RAxWAxYAgVOWEL SIGN AsIsUrEsErIrOsOrUl-CARRIER LETTER",
   "dITED LIABILITY SIGNcNE FEEDfINTEGRATION NOT INCLUDING THE POLE",
   "rWITH RECTANGULAR PATH AROUND POLEwSEMICIRCULAR PATH AROUND POLEfSEPARATORfTABULATIONp SET",
   "eAR A SIGN A028Bp100-102q20Bq31Cp301r2r3r4r5r6r7r8r9AsBsCq10r1r2r3AsBsCr4r5r6r7r8r9q20r1r2r3r4",
   "r5r6r7r8r9q30r1r2r3r4r5r6r7r8r9q40r1r2r3r4r5r6r7r8r9q50r1r2r3r4r5r6r7r8r9q60r1r2r3r4r5r6r7r8r9",
   "q70r1p400-VASr1-VASr2-VASr3-VASr4-VASr5-VASr6-VASr7-VASr8-VASr9-VASq10-VASr1-VASr2-VASr3-VAS",
   "r4-VASr5-VASr6-VASr7-VASr8-VASp501r2r3r4r5r6r8r9q10r1r2r3r5r6q20r1r3r4r5r6r7r8r9q30r1r2r4r5r6",
   "r7r8r9q40r1r2r5r7r8r9q50r1r2r3r4r5r6r7r9q63r4r5r6r8r9q70r1r2r3r4r5r6r7r8r9q80r1r2r3r4r5r6r7r8",
   "r9q91r2r4r5r6r8p600r1r2r3r4r6r8r9q10r1r2r3r4r5r6r7r8r9q20r1r2r3r4r6r7r8r9q34r7r8q40r2r3r4r5r6",
   "r8r9q51r2r3r4r5r6r7r8r9q60r1r2r3r4p701 Ar2 Br3 Dr4 Er5 Fr6 Hr7 Jr8 Kr9 Ls-2 L2t3 L3t4 L4t6 L6",
   "q10 Wr1 Xr2 Yr3 OMEGAr4 ABBr5 BBr7 DDq26 EYYYq32 JEp800r1r2r3r4r5r6r7pB001s2s3s4s5s6s7s8s9r10",
   "s1s3s6s7r20s1tFtMs2tFtMs3tMs4s6s7s8s9r30s1s4s7s8s9r40s1s4s5s6s7s8s9r50s1s3s4s5s6s7s8s9r60s1s5",
   "s6s7s9r70s3s4s6s7s8s9r80s1s2s5s6s7q118r20s2s3r31AtBr64r71r80s8r91hB IDEOGRAM B100 MANv2 WOMAN",
   "v4 DEERv5 EQUIDwF MAREwM STALLIONv6F EWEwM RAMv7F SHE-GOATwM HE-GOATv8F SOWwM BOARv9F COW",
   "wM BULLu20 WHEATv1 BARLEYv2 OLIVEv3 SPICEv5 CYPERUSu30 OILv1 WINEv2u40 BRONZEv1 GOLDv2v5 WOOL",
   "v6u50v1 HORNv2v3v4v7v8v9 CLOTHu60v1v2 GARMENTv3 ARMOURv4v5v6v7v8v9u70v1v2v3 MONTHv4v6 TREEv7v8",
   "v9u80v1v2v3v4v5v9u90v1 HELMETt220 FOOTSTOOLv5 BATHTUBu30 SPEARv1 ARROWv2v3 SWORDv4v6",
   "u40 WHEELED CHARIOTv1 CHARIOTv2 CHARIOT FRAMEv3 WHEELv5v6v8v9u51v2v3v4 DARTv5v6v7v8v9",
   "sVESSEL B155!200$1$2$3$4$5$6$7$8$9#10$1$2$3$4$5$6$7$8$9#21$2$6$7$8$9#50!305jMONOGRAM B127 KAPO",
   "v8 KANAKOu33 AREPAv5 MERIu56 TURO2t247 DIPTEjSYLLABLE B001 DAv2 ROv3 PAv4 TEv5 TOv6 NAv7 DI",
   "v8 Av9 SEu10 Uv1 POv2 SOv3 MEv4 DOv5 MOv6 QAv7 ZAu20 ZOv1 QIv3 MUv4 NEv5 A2v6 RUv7 REv8 I",
   "v9 PU2u30 NIv1 SAv2 QOv3 RA3v6 JOv7 TIv8 Ev9 PIu40 WIv1 SIv2 WOv3 A3v4 KEv5 DEv6 JEv8 NWA",
   "u50 PUv1 DUv2 NOv3 RIv4 WAv5 NUv7 JAv8 SUv9 TAu60 RAv1 Ov2 PTEv5 JUv6 TA2v7 KIv8 RO2v9 TU",
   "u70 KOv1 DWEv2 PEv3 MIv4 ZEv5 WEv6 RA2v7 KAv8 QEu80 MAv1 KUv5 AUv7 TWEu90 DWOv1 TWOlMBOL B018",
   "t9s22s34s47t9s56s63t4s79s82t3t6t9dK SYMBOLeED PAPERCLIPScON FACEcPSeTICKcRA SIGNcSU LETTER AnE",
   "mBAmCAnHAmDAnZAmEnUmFAmGAnHAmHAnHAmImJAmKAnHAmLAmMAmNAnGAmOnEmPAnHAmSAnHAmTAnHAnONE MYA BOvCYA",
   "vJEUvNAvTIrNA POnSAoHAmUnEnHmWAmXAmYAnHAmZAnHAfPUNCTUATION COMMArFULL STOPcVRE TOURNOIS SIGN",
   "cZARDbLAMAbOBSTERcCKe WITH INK PENeING-SHIFT ONEoZEROcGICAL ANDl WITH DOT ABOVEtUBLE OVERBAR",
   "yUNDERBARrHORIZONTAL DASHrMIDDLE STEMrUNDERBARiORk OVERLAPPING LOGICAL ANDlWITH DOT ABOVE",
   "sUBLE OVERBARxUNDERBARqHORIZONTAL DASHqMIDDLE STEMcLLIPOP",
   "cNG DASH FROM LEFT MEMBER OF DOUBLE VERTICALgIVISIONgRUMfLEFT RIGHT ARROWqDOUBLE ARROWkTACK",
   "jWARDS ARROWu FROM BARpDOUBLE ARROW# FROM BARpSQUIGGLE ARROWfRIGHT TACKkWARDS ARROWv FROM BAR",
   "qDOUBLE ARROW$ FROM BARqSQUIGGLE ARROWcTION BOTTLEdUScUDLY CRYING FACEcVE HOTELfLETTER",
   "cW ASTERISKeBATTERYfRIGHTNESS SYMBOLeDOUBLE PRIME QUOTATION MARKeKAVYKAk WITH DOTeLINE",
   "dER BLADE SCISSORSgFIVE EIGHTHS BLOCKgHALF BLOCKlCIRCLElINVERSE WHITE CIRCLElMEDIUM SHADE",
   "gLEFT BALLPOINT PENmLOCK DIAGONAL LOWER MIDDLE LEFT TO LOWER CENTRE~ER RIGHT",
   "!UPPER CENTRE TO LOWER MIDDLE RIGHT_RIGHT>UPPER MIDDLE RIGHT)LEFT TO LOWER CENTRE]MIDDLE RIGHT",
   "<UPPER MIDDLE RIGHT)MIDDLE LEFT TO LOWER CENTRE~ER MIDDLE RIGHT~ER RIGHTlCRAYONlFOUNTAIN PEN",
   "lPAINTBRUSHmENCILlQUADRANT CIRCULAR ARClSEMICIRCULAR ANTICLOCKWISE ARROWlTRIANGLE",
   "rULAR MEDIUM SHADEgONE EIGHTH BLOCKkQUARTER BLOCK",
   "gRIGHT BLOCK DIAGONAL LOWER CENTRE TO LOWER MIDDLE RIGHT?UPPER MIDDLE RIGHT|RIGHT",
   "*LEFT TO LOWER MIDDLE RIGHT=UPPER CENTRE^MIDDLE RIGHT*MIDDLE LEFT TO UPPER CENTRE",
   "~PER MIDDLE RIGHT~PER RIGHT#UPPER MIDDLE LEFT TO UPPER CENTRE~PER RIGHTmCORNER WITH DOT",
   "mDROP-SHADOWED WHITE SQUAREmPENCILmQUADRANT CIRCULAR ARCmSEMICIRCULAR CLOCKWISE ARROW",
   "nHADOWED WHITE CIRCLE#SQUAREmTRIANGLEsULAR MEDIUM SHADEgSEVEN EIGHTHS BLOCK",
   "gTHREE EIGHTHS BLOCKmQUARTERS BLOCKhRIANGULAR ONE QUARTER BLOCKcZENGE",
   "h DIVIDED BY HORIZONTAL RULEbREcIcMcObUGGAGEcNGSbYCIAN LETTER ApNoBpHoDoEpNoGoHoIoJoKpKoLoMpM",
   "oNpNoPoQoRoSoTpHpToUoWoXoZcDIAN LETTER ApNoBoCoDoEpNoFoGoIoKoLpYoMoNpNoOoQoRoSpSoTpToUoVoY",
   "hTRIANGULAR MARKcING FACEaMACRONcGEdIC WANDdNETcHAJANI ABBREVIATION SIGNjLETTER AqBArHAqCArHA",
   "qDArDAsHArHAqEqGArHAqHAqIqJArHAqKArHAqLAqMAqNArNArYAqOqPArHAqRArRAqSAqTArHArTAsHAqUqVA",
   "kIGATURE SHRIjSECTION MARKkIGN NUKTAdJONG TILE AUTUMNnBACKpMBOOnCHRYSANTHEMUMnEAST WIND",
   "oIGHT OF BAMBOOSwCHARACTERSxIRCLESnFIVE OF BAMBOOSvCHARACTERSwIRCLESoOUR OF BAMBOOSvCHARACTERS",
   "wIRCLESnGREEN DRAGONnJOKERnNINE OF BAMBOOSvCHARACTERSwIRCLESoORTH WINDnONE OF BAMBOOS",
   "uCHARACTERSvIRCLESoRCHIDnPLUMnRED DRAGONnSEVEN OF BAMBOOSwCHARACTERSxIRCLESoIX OF BAMBOOS",
   "uCHARACTERSvIRCLESoOUTH WINDoPRINGoUMMERnTHREE OF BAMBOOSwCHARACTERSxIRCLESoWO OF BAMBOOS",
   "uCHARACTERSvIRCLESnWEST WINDoHITE DRAGONoINTERcKASAR ANGKAiEND OF SECTIONiLETTER ApBApCApDApGA",
   "pJApKApLApMApNAqGAqYApPApRApSApTApVApYAiPASSIMBANGiVOWEL SIGN EtItOtUcLAYALAM AU LENGTH MARK",
   "kDATE MARKlIGIT EIGHTqFIVErOURqNINEqONEqSEVENrIXqTHREErWOqZEROkFRACTION ONE EIGHTHxFIFTH",
   "yORTIETHxHALFxONE-HUNDRED-AND-SIXTIETHxQUARTERxSIXTEENTHxTENTHyWENTIETHtTHREE EIGHTIETHS",
   "zQUARTERSzSIXTEENTHSzTWENTIETHSkLETTER AsAsIsRCHAIC IIsUrBAsHArCAsHAtILLU KyLzL!LyMyNzNyRRyY",
   "rDAsDAtHAsHAsOT REPHrEsErGAsHArHArIsIrJAsHArKAsHArLAsLAtLArMArNAsGAsNAtNAsYArOsOrPAsHArRAsRA",
   "rSAsHAsSArTAsHAsTAtHAtTArUsUrVAsEDIC ANUSVARAsOCALIC L!LzR!RrYAkNUMBER ONE HUNDREDvTHOUSAND",
   "rTENkSIGN ANUSVARAqVAGRAHApCANDRABINDUqIRCULAR VIRAMAqOMBINING ANUSVARA ABOVEpPARA",
   "pVERTICAL BAR VIRAMAqIRAMArSARGAkVOWEL SIGN AAwIwUvEwEvIwIvOwOvUwUvVOCALIC L&L%R&R",
   "dE AND FEMALE SIGNfSIGNfWITH STROKE AND MALE AND FEMALE SIGNrSIGNdTESE CROSScMMOTHcN",
   "d AND WOMAN HOLDING HANDSeDANCINGeIN BUSINESS SUIT LEVITATINGhTUXEDOeWITH GUA PI MAOjTURBAN",
   "dAT SIGNdDAIC AFFRICATION MARKiGEMINATION MARKiLETTER ABqDqGqHqINqKrSAqLqMqNqPqQqRqSrHrZqTrTqZ",
   "pDUSHENNApHALQApINqTpKADpUSHENNAiPUNCTUATIONiVOCALIZATION MARKdGO",
   "dICHAEAN ABBREVIATION MARK ABOVE%BELOWlLETTER AAYINtLEPHtYINsBETHtHETHsDALETHtHAMEDHsFEsGHIMEL",
   "tIMELsHEuTHsJAYINtHAYINsKAPHtHAPHsLAMEDHsMEMsNUNsPEsQHOPHtOPHsRESHsSADHEuMEKHtHINtSHINsTAWtETH",
   "tHAMEDHsWAWsXAPHtOPHsYODHsZAYINtHAYINlNUMBER FIVEsONEv HUNDREDsTENtWENTYlPUNCTUATION DOT",
   "! WITHIN DOTzUBLE DOT WITHIN DOTxFLEURONxLINE FILLERxSTARxTWO DOTSlSIGN UDdS SHOE",
   "dTELPIECE CLOCKdUAL WHEELCHAIRcP SYMBOL FOR LIGHTHOUSEdLE LEAFcRCHEN HEAD MARKiLETTER -ApApBA",
   "pCAqHApDAqZApGApHApJApKAqHApLApMApNAqGAqYApPAqHApRApSAqHApTAqHAqSArHApWApYApZAqHAiMARK SHAD",
   "iSIGN ANUSVARAnCANDRABINDUjUBJOINED LETTER AzBAzCA!HAzDA!ZAzGAzHAzJAzKA!HAzLAzMAzNA!GA!YAzPA",
   "!HAzRAzSA!HAzTA!HA!SA#HAzWAzYAzZA!HAiVOWEL SIGN AAtEtItOtUdRIAGE SYMBOLdTIAL ARTS UNIFORM",
   "cSARAM GONDI DIGIT EIGHTuFIVEvOURuNINEuONEuSEVENvIXuTHREEvWOuZEROoLETTER AwAwIwUvBAwHAvCAwHA",
   "vDAwDAxHAwHAvEvGAwHAvHAvIwIvJAwHAwNYAvKAwHAwSSAvLAwLAvMAvNAwGAwNAwYAvOvPAwHAvRAvSAwHAwSAvTAwHA",
   "wRAwTAxHAvUwUvVAvYAoRA-KARApEPHAoSIGN ANUSVARAtCANDRAtHALANTAtNUKTAtVISARGAoVIRAMA",
   "pOWEL SIGN AA!I!UzEzI!IzOzU!UzVOCALIC RdCULINE ORDINAL INDICATORdK WORK SYMBOLdU MARKcTE DRINK",
   "dHEMATICAL BOLD CAPITAL A#LPHA!B#ETA!C#HI!D#ELTA#IGAMMA!E#PSILON#TA!F!G#AMMA!H!I#OTA!J!K#APPA",
   "!L#AMDA!M#U!N#U!O#MEGA$ICRON!P#HI#I#SI!Q!R#HO!S#IGMA!T#AU#HETA( SYMBOL!U#PSILON!V!W!X#I!Y!Z",
   "#ETAsDIGIT EIGHTyFIVEzOURyNINEyONEySEVENzIXyTHREEzWOyZEROsEPSILON SYMBOLsFRAKTUR CAPITAL A+B+C",
   "+D+E+F+G+H+I+J+K+L+M+N+O+P+Q+R+S+T+U+V+W+X+Y+Z!SMALL A)B)C)D)E)F)G)H)I)J)K)L)M)N)O)P)Q)R)S)T)U",
   ")V)W)X)Y)ZsITALIC CAPITAL A+LPHA*B+ETA*C+HI*D+ELTA*E+PSILON+TA*F*G+AMMA*H*I+OTA*J*K+APPA*L",
   "+AMDA*M+U*N+U*O+MEGA,ICRON*P+HI+I+SI*Q*R+HO*S+IGMA*T+AU+HETA: SYMBOL*U+PSILON*V*W*X+I*Y*Z+ETA",
   "zEPSILON SYMBOLzKAPPA SYMBOLzNABLAzPARTIAL DIFFERENTIAL!HI SYMBOL!I SYMBOLzRHO SYMBOLzSMALL A",
   ")LPHA(B)ETA(C)HI(D)ELTA(E)PSILON)TA(F)INAL SIGMA(G)AMMA(H(I)OTA(J(K)APPA(L)AMDA(M)U(N)U(O)MEGA",
   "*ICRON(P)HI)I)SI(Q(R)HO(S)IGMA(T)AU)HETA(U)PSILON(V(W(X)I(Y(Z)ETAzTHETA SYMBOLsKAPPA SYMBOL",
   "sNABLAsPARTIAL DIFFERENTIALtHI SYMBOLtI SYMBOLsRHO SYMBOLsSCRIPT CAPITAL A*B*C*D*E*F*G*H*I*J*K",
   "*L*M*N*O*P*Q*R*S*T*U*V*W*X*Y*ZzSMALL A(B(C(D(E(F(G(H(I(J(K(L(M(N(O(P(Q(R(S(T(U(V(W(X(Y(Z",
   "tMALL AzLPHAyBzETAyCzHIyDzELTAzIGAMMAyEzPSILONzTAyFzINAL SIGMAyGzAMMAyHyIzOTAyJyKzAPPAyLzAMDA",
   "yMzUyNzUyOzMEGA!ICRONyPzHIzIzSIyQyRzHOySzIGMAyTzAUzHETAyUzPSILONyVyWyXzIyYyZzETAsTHETA SYMBOL",
   "nDOUBLE-STRUCK CAPITAL A,B,D,E,F,G,I,J,K,L,M,O,S,T,U,V,W,X,Y#DIGIT EIGHT*FIVE+OUR*NINE*ONE",
   "*SEVEN+IX*THREE+WO*ZERO#SMALL A*B*C*D*E*F*G*H*I*J*K*L*M*N*O*P*Q*R*S*T*U*V*W*X*Y*Z",
   "nFALLING DIAGONALoRAKTUR CAPITAL A%B%D%E%F%G%J%K%L%M%N%O%P%Q%S%T%U%V%W%X%YvSMALL A#B#C#D#E#F#G",
   "#H#I#J#K#L#M#N#O#P#Q#R#S#T#U#V#W#X#Y#ZnITALIC CAPITAL A%LPHA$B%ETA$C%HI$D%ELTA$E%PSILON%TA$F$G",
   "%AMMA$H$I%OTA$J$K%APPA$L%AMDA$M%U$N%U$O%MEGA&ICRON$P%HI%I%SI$Q$R%HO$S%IGMA$T%AU%HETA* SYMBOL$U",
   "%PSILON$V$W$X%I$Y$Z%ETAuEPSILON SYMBOLuKAPPA SYMBOLuNABLAuPARTIAL DIFFERENTIALvHI SYMBOL",
   "vI SYMBOLuRHO SYMBOLuSMALL A#LPHA!B#ETA!C#HI!D#ELTA#OTLESS I+J!E#PSILON#TA!F#INAL SIGMA!G#AMMA",
   "!I#OTA!J!K#APPA!L#AMDA!M#U!N#U!O#MEGA$ICRON!P#HI#I#SI!Q!R#HO!S#IGMA!T#AU#HETA!U#PSILON!V!W!X#I",
   "!Y!Z#ETAuTHETA SYMBOLnLEFT ANGLE BRACKETsDOUBLE ANGLE BRACKETsFLATTENED PARENTHESIS",
   "sWHITE SQUARE BRACKETyTORTOISE SHELL BRACKETnMONOSPACE CAPITAL A(B(C(D(E(F(G(H(I(J(K(L(M(N(O(P",
   "(Q(R(S(T(U(V(W(X(Y(ZxDIGIT EIGHT%FIVE&OUR%NINE%ONE%SEVEN&IX%THREE&WO%ZEROxSMALL A%B%C%D%E%F%G",
   "%H%I%J%K%L%M%N%O%P%Q%R%S%T%U%V%W%X%Y%ZnRIGHT ANGLE BRACKETtDOUBLE ANGLE BRACKET",
   "tFLATTENED PARENTHESIStWHITE SQUARE BRACKETzTORTOISE SHELL BRACKETpSING DIAGONAL",
   "nSANS-SERIF BOLD CAPITAL A:LPHA/B:ETA/C:HI/D:ELTA/E:PSILON:TA/F/G:AMMA/H/I:OTA/J/K:APPA/L:AMDA",
   "/M:U/N:U/O:MEGA;ICRON/P:HI:I:SI/Q/R:HO/S:IGMA/T:AU:HETA> SYMBOL/U:PSILON/V/W/X:I/Y/Z:ETA",
   "%DIGIT EIGHT,FIVE.OUR,NINE,ONE,SEVEN.IX,THREE.WO,ZERO%EPSILON SYMBOL%ITALIC CAPITAL A[LPHA@B",
   "[ETA@C[HI@D[ELTA@E[PSILON[TA@F@G[AMMA@H@I[OTA@J@K[APPA@L[AMDA@M[U@N[U@O[MEGA]ICRON@P[HI[I[SI@Q",
   "@R[HO@S[IGMA@T[AU[HETA| SYMBOL@U[PSILON@V@W@X[I@Y@Z[ETA.EPSILON SYMBOL.KAPPA SYMBOL.NABLA",
   ".PARTIAL DIFFERENTIAL/HI SYMBOL/I SYMBOL.RHO SYMBOL.SMALL A?LPHA>B?ETA>C?HI>D?ELTA>E?PSILON?TA",
   ">F?INAL SIGMA>G?AMMA>H>I?OTA>J>K?APPA>L?AMDA>M?U>N?U>O?MEGA@ICRON>P?HI?I?SI>Q>R?HO>S?IGMA>T?AU",
   "?HETA>U?PSILON>V>W>X?I>Y>Z?ETA.THETA SYMBOL%KAPPA SYMBOL%NABLA%PARTIAL DIFFERENTIAL&HI SYMBOL",
   "&I SYMBOL%RHO SYMBOL%SMALL A.LPHA,B.ETA,C.HI,D.ELTA,E.PSILON.TA,F.INAL SIGMA,G.AMMA,H,I.OTA,J",
   ",K.APPA,L.AMDA,M.U,N.U,O.MEGA/ICRON,P.HI.I.SI,Q,R.HO,S.IGMA,T.AU.HETA,U.PSILON,V,W,X.I,Y,Z.ETA",
   "%THETA SYMBOLyCAPITAL A)B)C)D)E)F)G)H)I)J)K)L)M)N)O)P)Q)R)S)T)U)V)W)X)Y)ZyDIGIT EIGHT&FIVE(OUR",
   "&NINE&ONE&SEVEN(IX&THREE(WO&ZEROyITALIC CAPITAL A;B;C;D;E;F;G;H;I;J;K;L;M;N;O;P;Q;R;S;T;U;V;W",
   ";X;Y;Z(SMALL A/B/C/D/E/F/G/H/I/J/K/L/M/N/O/P/Q/R/S/T/U/V/W/X/Y/ZySMALL A&B&C&D&E&F&G&H&I&J&K&L",
   "&M&N&O&P&Q&R&S&T&U&V&W&X&Y&ZoCRIPT CAPITAL A$C$D$G$J$K$N$O$P$Q$S$T$U$V$W$X$Y$ZuSMALL A!B!C!D!F",
   "!H!I!J!K!L!M!N!P!Q!R!S!T!U!V!W!X!Y!ZcXIMIZEcYAN NUMERAL EIGHTtEENpLEVENoFIFTEENqVEpOURsTEEN",
   "oNINEsTEENoONEoSEVENtTEENpIXrTEENoTENpHIRTEENqREEpWELVEqOoZERObEASURED ANGLEo OPENING LEFT",
   "pWITH OPEN ARM ENDING IN ARROW POINTING DOWN AND LEFT~ING DOWN AND RIGHT~ING LEFT AND DOWN",
   "~ING LEFT AND UP~ING RIGHT AND DOWN~ING RIGHT AND UP~ING UP AND LEFT~ING UP AND RIGHTjBY",
   "jRIGHT ANGLE WITH DOTdT ON BONEcCHANICAL ARMlLEGcDEFAIDRIN CAPITAL LETTER A$I$TIU#B#C#D#E#F#G",
   "#H$P#I#J#K$P#L#M#N$G$Y#O$E#P#Q#R#S#T#U#V#W#X#Y$U#ZnOMMAmDIGIT EIGHTsFIVEtOURsNINEsONE",
   "v ALTERNATE FORMsSEVENtIXsTHREEx ALTERNATE FORMtWOv ALTERNATE FORMsZEROmEXCLAMATION OH",
   "mFULL STOPmNUMBER EIGHTEENuLEVENtFIFTEENuOURTEENtNINETEENtSEVENTEENuIXTEENtTENuHIRTEENuWELVE",
   "mSMALL LETTER A!I!TIUzBzCzDzEzFzGzH!PzIzJzK!PzLzMzN!G!YzO!EzPzQzRzSzTzUzVzWzXzY!UzZnYMBOL AIVA",
   "dIEVAL COMMAjEXCLAMATION MARKjQUESTION MARKeUM BLACK CIRCLEiOLD WHITE CIRCLE",
   "hEIGHT POINTED BLACK STARnSPOKED ASTERISKhFIVE SPOKED ASTERISK",
   "iLATTENED LEFT PARENTHESIS ORNAMENTrRIGHT PARENTHESIS ORNAMENTiOUR POINTED BLACK STAR",
   "uPINWHEEL STARhGREEK CROSShLEFT CURLY BRACKET ORNAMENTmPARENTHESIS ORNAMENT",
   "l-POINTING ANGLE BRACKET ORNAMENThMATHEMATICAL SPACEhRIGHT CURLY BRACKET ORNAMENT",
   "nPARENTHESIS ORNAMENTm-POINTING ANGLE BRACKET ORNAMENThSALTIREiHADEiIX POINTED BLACK STAR",
   "lSPOKED ASTERISKiMALL WHITE CIRCLEhTHREE POINTED BLACK STARvPINWHEEL STARhVERTICAL BAR",
   "hWHITE CIRCLEnSQUAREcETEI MAYEK AHANG KHUDAMoNJIoPUN IYEKnCHEIKHANtEInDIGIT EIGHTtFIVEuOUR",
   "tNINEtONEtSEVENuIXtTHREEuWOtZEROnLETTER ATIYAuBAvHAMuCHAwILuDDAwHAvHOUvILuEuGHOUvOKuHUKuI",
   "v LONSUMuJHAMvILuKHOUvOKx LONSUMuLAIx LONSUMuMITx LONSUMuNAw LONSUMvGOUy LONSUMvNAvYAuOuPA",
   "w LONSUMvHAMuRAIuSAMvHAvSAuTHOUvILx LONSUMvTAwHAuUNuWAIuYANGoUM IYEKnSYLLABLE REPETITION MARK",
   "nVIRAMAoOWEL SIGN AAI!UzNAPzUyCHEINAPyIIzNAPyNUNGyONAPySOUNAPyUNAPzUyVISARGAyYENAP",
   "nWORD REPETITION MARKcLONdTING FACEcMOcNDE KIKAKUI COMBINING NUMBER HUNDRED THOUSANDS:S",
   "(MILLIONS(TEENS*N THOUSANDS+S)HOUSANDSoDIGIT EIGHTuFIVEvOURuNINEuONEuSEVENvIXuTHREEvWO",
   "oSYLLABLE M001 KI!2 KA!3 KU!4 WI!5 WA!6 WU!7 MIN!8 MAN!9 MUNz10 BI!1 BA!2 BU!3 I!4 A!5 U!6 DI",
   "!7 DA!8 DU!9 SIz20 SA!1 SU!2 TI!3 TA!4 TU!5 LI!6 LA!7 LU!8 JI!9 JAz30 JU!1 YI!2 YA!3 YU!4 FI",
   "!5 FA!6 FU!7 NIN!8 NAN!9 NUNz40 HEE!1 HA!2 HOO!3 NGGA!4 KPEE!5 WO!6 HUAN!7 MBEE!8 KO!9 WVA",
   "z50 PU!1 PE!2 HEN!3 HIN!4 LOO!5 TE!6 GBA!7 NGON!8 NYAN!9 MENz60 NYON!1 WVI!2 MBA!3 JO!4 NDO",
   "!5 KEE!6 PO!7 NDOO!8 PI!9 TOz70 GBO!1 GBOO!2 MBE!3 LE!4 KPU!5 FE!6 KOO!7 VO!8 FEE!9 SOz80 YE",
   "!1 PEE!2 NGGU!3 HEEI!4 LEE!5 VE!6 LONG NGGE!7 HUN!8 FO!9 DEEz90 NGGI!1 TEE!2 KPA!3 GBEE!4 MON",
   "!5 KE!6 HE!7 BE!8 NYEN!9 PAy100 E!1 FAN!2 POO!3 BOO!4 TOO!5 LONG MBOO!6 LONG NGGOO!7 GBE!8 KPE",
   "!9 YEEz10 LONG LE!1 GA!2 KPOO!3 JE!4 WOO!5 NGGEE!6 SE!7 NEN!8 WE!9 NDEz20 NGGO!1 YO!2 MBU",
   "!3 NDI!4 GBI!5 NDU!6 WEE!7 NGGUA!8 HOOU!9 NDAz30 HAN!1 IN!2 KPI!3 FOO!4 NJOO!5 IN!6 SOO!7 EI",
   "!8 BO!9 WVEz40 HO!1 YOO!2 LONG MBO!3 WEI!4 VOO!5 MBI!6 NGGE!7 O!8 GBU!9 NJEEz50 BEE!1 VU!2 NJA",
   "!3 LO!4 MUAN!5 GI!6 NGGOO!7 JEE!8 KPO!9 NGGAAz60 JOO!1 LONG MBE!2 SEE!3 EE!4 NYIN!5 OO!6 GUEI",
   "!7 GUAN!8 GU!9 NONz70 NYUN!1 RA!2 MBOO!3 VEE!4 MBO!5 LONG JO!6 HI!7 NGUAN!8 EN!9 KUAz80 DOO",
   "!1 DO!2 VI!3 LONG NGGO!4 NGEN!5 VA!6 HU!7 MBUU!8 MBEE!9 MUENz90 GEE!1 NDEE!2 NJU!3 HON!4 WUI",
   "!5 AN!6 SIA!7 FUAdORAH WITH NINE BRANCHESdS SYMBOLcRCURYdOITIC CURSIVE FRACTION EIGHT TWELFTHS",
   "#LEVEN TWELFTHS!FIVE TWELFTHS#OUR TWELFTHS!NINE TWELFTHS!ONE HALF&TWELFTH!SEVEN TWELFTHS",
   "#IX TWELFTHS!TEN TWELFTHS#HREE TWELFTHS#WO TWELFTHSrLETTER AzRCHAIC SAyBAyDAyEyHHAyIyKAzHAyLA",
   "yMAyNAzEyOyPAyQAyRAySAzEyTAzEzOyWAyYAsOGOGRAM IMN!RMTrNUMBER EIGHT% HUNDRED/ THOUSAND&THOUSAND",
   "%Y THOUSANDyFIFTY% THOUSAND!VE$ HUNDRED. THOUSAND%THOUSANDzORTY% THOUSAND!UR$ HUNDRED",
   ". THOUSAND%THOUSANDyNINE$ HUNDRED. THOUSAND%THOUSAND$TY THOUSANDyONE# HUNDRED, THOUSAND",
   "$THOUSANDySEVEN% HUNDRED/ THOUSAND&THOUSAND%TY( THOUSANDzIX# HUNDRED, THOUSAND$THOUSAND#TY",
   "% THOUSANDyTEN# THOUSANDzHIRTY& THOUSAND!REE% HUNDRED/ THOUSAND&THOUSANDzWENTY& THOUSAND!O",
   "# HUNDRED, THOUSAND$THOUSANDjHIEROGLYPHIC LETTER A%BA(-2%DA%E%HHA%I%KA&HA%LA%MA%NA(-2&E(-2%O",
   "%PA%QA%RA(-2%SA(-2&E%TA(-2&E(-2&O%WA%YAwSYMBOL VIDJ*-2dPERSONcSSAGE WAITINGcTRICAL BREVE",
   "jLONG OVER SHORTtTWO SHORTSjPENTASEMEjSHORT OVER LONGjTETRASEMEkRISEMEkWO SHORTS JOINED",
   "uOVER LONGeObIAO LETTER AHnRCHAIC MAuNAvGAuZZAmBAnRImDAnDAnLHApYAnZAoHAoYIoZAmFAmGAnHAoHAmHA",
   "nHAmKAmLAnHAoYAnYAmMAnHAmNAoSALIZATIONnGAoHAnHAnNAoHAnYAoHAmPAnLAmQAnGAmREFORMED TONE-1!2!4!5",
   "!6!8wSHAnTEmSAnHAnSAnYImTAnEnLHApYAnONE-2r3r4r5r6r7r8nSAoEoHAoSAnTAmVAnFAmWAmXAmYI DZHApKApNNA",
   "pPApTAqSArHAqTAmZAnHAnSAoHAnZAoSApYAoYAfSIGN ASPIRATIONkCONSONANT MODIFIER BAR",
   "kREFORMED ASPIRATIONtVOICINGfTONE ABOVEkBELOWkRIGHTkTOP RIGHTfVOWEL SIGN ArArEsErHHrIrNsGrUqE",
   "rArIrNsGrRsRqIrAsNtGrErGrIrNGrOsNGrUqNrGqOrERsYrGrOrUqROUNDED ER!RqUrAsNtGrEIrIrNGrOGrUqVWqWrO",
   "qYrIrUIcCR DASH SYMBOLfON US SYMBOLeO SIGNfBEfPHONEfSCOPEcDDLE DOT",
   "hTHIRD WHITE RIGHT POINTING INDEXdLINE HORIZONTAL ELLIPSIScLITARY HELMETjMEDALdKY WAYdL SIGN",
   "cNIBUSeDISCeMIZEdUS SIGNk IN TRIANGLElWITH COMMA ABOVEqDOT BELOWqFALLING DOTSqRISING DOTS",
   "gTILDEf-OR-PLUS SIGNdYcRRORg BALLbMSPbOBILE PHONEm OFFnWITH RIGHTWARDS ARROW AT LEFTcDELS",
   "eRN PENTATHLONdI ABBREVIATION SIGNfDANDAgIGIT EIGHTlFIVEmOURlNINElONElSEVENmIXlTHREEmWOlZERO",
   "gOUBLE DANDAfLETTER AnAnInUmBAnHAmCAnHAmDAnDAoHAnHAmEmGAnHAmHAmInImJAnHAmKAnHAmLAnLAmMAmNAnGA",
   "nNAnYAmOmPAnHAmRAmSAnHAnSAmTAnHAnTAoHAmUnUmVAnOCALIC LvLuRvRmYAfSIGN ANUSVARAlRDHACANDRAkHUVA",
   "kVIRAMAmSARGAfVOWEL SIGN AArIrUqEqIrIqOqUrUqVOCALIC LzLyRzReFIER BREVE WITH INVERTED BREVE",
   "jLETTER ACUTE ACCENTrLVEOLAR CLICKrPOSTROPHEqBEGIN HIGH TONEwLOW TONErILABIAL CLICKqCAPITAL A",
   "zEyBzARRED ByCyDyEyFyGyHz WITH STROKEyIyJyKyLyMyNyOzUyPyQyRzEVERSED E*NyTyUyVyW",
   "rENTRED LEFT HALF RINGyRIGHT HALF RINGrHINESE TONE YANG PING+QU+RU+SHANG&IN PING*QU*RU*SHANG",
   "rIRCUMFLEX ACCENTrOLONrROSS ACCENTrYRILLIC ENzHARD SIGNzSOFT SIGNqDENTAL CLICK",
   "rOT HORIZONTAL BARuSLASHuVERTICAL BARsUBLE APOSTROPHExPRIMEsWN ARROWHEADvTACKqEND HIGH TONE",
   "uLOW TONErXTRA-HIGH DOTTED LEFT-STEM TONE BAR+TONE BAR#LEFT-STEM TONE BAR#TONE BAR",
   "wLOW DOTTED LEFT-STEM TONE BAR*TONE BAR!LEFT-STEM TONE BAR!TONE BARqGEORGIAN NARrLOTTAL STOP",
   "$ WITH STROKErRAVE ACCENTqHALF TRIANGULAR COLONrIGH DOTTED LEFT-STEM TONE BAR$TONE BAR",
   "vLEFT-STEM TONE BARvTONE BARqLATERAL CLICKrEFT ARROWHEADvHALF RINGvTACKrOW ACUTE ACCENT",
   "uCIRCUMFLEX ACCENTuDOTTED LEFT-STEM TONE BAR#TONE BARwWN ARROWHEADuGRAVE ACCENT",
   "uINVERTED EXCLAMATION MARKuLEFT ARROW&HEADy-STEM TONE BARuMACRONuRIGHT ARROWHEADwNGuTILDE",
   "vONE BARuUP ARROWHEADuVERTICAL LINEtER RIGHT CORNER ANGLEqMACRONrID DOTTED LEFT-STEM TONE BAR",
   "#TONE BARuLEFT-STEM TONE BARuTONE BARtDLE DOUBLE ACUTE ACCENT&GRAVE ACCENTxGRAVE ACCENT",
   "sNUS SIGNqOPEN SHELFqPLUS SIGNrRIMEqRAISED COLONxDOWN ARROWxEXCLAMATION MARK",
   "xINVERTED EXCLAMATION MARKxUP ARROWrETROFLEX CLICK WITH RETROFLEX HOOKsVERSED COMMA",
   "zGLOTTAL STOP/ WITH STROKErHOTIC HOOKrIGHT ARROWHEADwHALF RINGwTACKqSHELFsORT EQUALS SIGN",
   "rMALL AxExINxLPHAwBx WITH HOOKxARRED OxETAxOTTOM HALF OwCx WITH CURLxAPITAL AA&B&G( WITH HOOK",
   "&H&I( WITH STROKE(NVERTED R&L( WITH BELT&N&OE&R&U&YxHIxLOSED OMEGA%REVERSED OPEN EwD",
   "x WITH HOOK* AND TAIL%TAILxELTAyZH DIGRAPHxOTLESS J WITH STROKE? AND HOOKxZ DIGRAPH) WITH CURL",
   ":RETROFLEX HOOKwExNGxSHxTHxZHwFxENG DIGRAPHwGx WITH HOOKxAMMAxREEK GAMMA$PHIwHx WITH HOOK",
   "%STROKExENG! WITH HOOKwI WITH STROKExOTAwJx WITH CROSSED-TAILwKwLx WITH BELT%INVERTED LAZY S",
   "%MIDDLE TILDE%PALATAL HOOK%RETROFLEX HOOK? AND BELTxEZH! WITH RETROFLEX HOOKxIGATURE OE",
   "xS DIGRAPHxZ DIGRAPHwMx WITH HOOKwN WITH LEFT HOOK%RETROFLEX HOOKwOx WITH STROKExPEN E#OwPxHI",
   "wQwRx WITH FISHHOOK%TAILxAMS HORNxEVERSED E(GLOTTAL STOP(OPEN EwSx WITH CURL%HOOKxCHWAyRIPT G",
   "xIDEWAYS UwTx WITH PALATAL HOOK%RETROFLEX HOOKxC DIGRAPH WITH CURLxESH DIGRAPHxHETAxOP HALF O",
   "xS DIGRAPH) WITH RETROFLEX HOOKxURNED A&E&LPHA%H%I%M& WITH LONG LEG%OPEN E%R& WITH HOOK",
   ".LONG LEG@ AND RETROFLEX HOOK%V%W%Y& WITH BELTwUx BARyWITH LEFT HOOKxPSILONwVx WITH HOOK",
   "%RIGHT HOOKwWwXwYwZx WITH CURL%RETROFLEX HOOKrTRESS AND HIGH TONE#LOW TONE",
   "rUPERSCRIPT HALF TRIANGULAR COLON$TRIANGULAR COLONqTRIANGULAR COLONrURNED COMMAqUNASPIRATED",
   "rP ARROWHEADtTACKrSqVERTICAL LINErOICINGqYANG DEPARTING TONE MARKrIN DEPARTING TONE MARK",
   "dULO TWO SUMcNEY BAGgWITH WINGSf-MOUTH FACEdGOLIAN BIRGAp WITH DOUBLE ORNAMENTvORNAMENTkCOLON",
   "mMMAkDIGIT EIGHTqFIVErOURqNINEqONEqSEVENrIXqTHREErWOqZEROlOUBLE BIRGA WITH ORNAMENTkELLIPSIS",
   "kFOUR DOTSlREE VARIATION SELECTOR FOUR+ONE+THREE,WOlULL STOPkINVERTED BIRGA",
   "y WITH DOUBLE ORNAMENTkLETTER AsLI GALI A#H#NUSVARA ONE!BALUDA!CA!DA$GALGA$MARU#DA!HALF U(YA!I",
   "#NVERTED UBADAMA!KA!NGA#NA!PA#HA!SSA!TA#HREE BALUDA#TA$HA!UBADAMA!VISARGA ONE!ZA#HAsNGrBArCHA",
   "u WITH TWO DOTStIrDArEsErFArGArHAArIrJArKAsHArLAsHArMAtNCHU ALI GALI BHA*CA+YA*DDHA+HA*GHA*JHA",
   "*LHA*NGA*SSA*TA+TA*ZA+HAyFAyIyKAyRAyZHArNArOsErPArQArRArSAsHAsIBE ANGwCHAwDAwEwFAwGAyAwHAyAwI",
   "xYwJAwKAwPAwRAAwSHAwTAxSAwUxEwZAxHArTAsODO ALI GALI TA(ZHAxNGwBAwCHAwDAxZAwEwGAyAwHAAwIwJAxIA",
   "wKAwLONG VOWEL SIGNwMAwNIAwOxEwPAwQAwTAxSAwUxEwWAwYAsSArUsErWArYArZAsHIsRAkMANCHU COMMA",
   "rFULL STOPkNIRUGUkROTATED BIRGAx WITH DOUBLE ORNAMENT%ORNAMENTkSIBE SYLLABLE BOUNDARY MARKER",
   "lWIRL BIRGAv WITH DOUBLE ORNAMENT#ORNAMENTkTODO SOFT HYPHENlRIPLE BIRGA WITH ORNAMENT",
   "lURNED SWIRL BIRGA WITH DOUBLE ORNAMENTkVOWEL SEPARATORdKEYg FACEdOGRAM FOR EARTHnYANGoINeRAIL",
   "eSTABLE SYMBOLcOD BUBBLEdN CAKEfVIEWING CEREMONYcSQUEfITOcTHER CHRISTMASdOR BOATgSCOOTER",
   "fIZED WHEELCHAIRfWAYcUNT FUJIfAINi BICYCLISTjCABLEWAYjRAILWAYdSEf FACEgTRAPdTHcVIE CAMERAcYAI",
   "bRO DANDAfIGIT EIGHTkFIVElOURkNINEkONEkSEVENlIXkTHREElWOkZEROfOUBLE DANDAeLETTER AlBAlCHUlDAnI",
   "lEmAlHAInOlKEAAEmHAImOlLAnNlMAEMmIMlNGImINlOmLmOlPAmHIlRImOlSHIlTAmEKmHEAlWAlYO",
   "bUCH GREATER-THANfLESS-THANcLTANI LETTER ApBAqHApCAqHApDAqDArDArHAqHApEpGAqHApHApIpJAqJApKAqHA",
   "pLApMApNAqNAqYApPAqHApRAqHAqRApSApTAqHAqTArHApUpVApYAiSECTION MARKeIMAPfPLE MUSICAL NOTES",
   "hICATION SIGNt IN DOUBLE CIRCLExLEFT HALF CIRCLExRIGHT HALF CIRCLExTRIANGLEuWITH DOT ABOVE",
   "zUNDERBARpXfSETi MULTIPLICATIONjUNIONcSHROOMdIC FLAT SIGNgNATURAL SIGNgSHARP SIGNfAL KEYBOARD",
   "q WITH JACKSiNOTEiSCOREjYMBOL ARPEGGIATO DOWN!UPpBEGIN BEAMvPHRASEvSLURvTIEqRACEtKETrEATH MARK",
   "sVEtISv RESTpC CLEFqAESURAqIRCLE X NOTEHEADqLIMACUSsVISrUSTER NOTEHEAD BLACK)WHITEqODA",
   "rMBINING ACCENT(-STACCATO!UGMENTATION DOTzBENDzDOIT#UBLE TONGUE#WN BOWzFLAG-1&2&3&4&5#IP",
   "zHARMONICzLOUREzMARCATO)-STACCATOzRIPzSMEAR!NAP PIZZICATO!PRECHGESANG STEM!TACCATISSIMO)O#EM",
   "zTENUTO!REMOLO-1*2*3#IPLE TONGUEzUP BOWsMON TIMEqRESCENDOrOIXqUT TIMEpDA CAPOrL SEGNOrMPt ALL",
   "rSHED BARLINEqECRESCENDOrGREE SLASHqOUBLE BARLINEwFLATwSHARPqRUM CLEF-1z2pEIGHTH NOTEwREST",
   "qND BEAMtOF STIMMEtPHRASEtSLURtTIEpF CLEFv OTTAVA ALTA%BASSAqERMATAw BELOWqINAL BARLINE",
   "sGERED TREMOLO-1)2)3rVE-LINE STAFFqLAT DOWNuUPqORTErUR-LINE STAFFuSTRING FRETBOARDqUSA BLACK",
   "uWHITEpG CLEFv OTTAVA ALTA%BASSAqLISSANDO DOWNzUPqRACE NOTE NO SLASH!SLASHrEGORIAN C CLEF",
   "zF CLEFpHALF NOTEuPEDAL MARKuRESTrUPTSTIMMEpINVERTED TURNpKIEVAN C CLEFwEIGHTH NOTE STEM DOWN",
   ";UPxND OF PIECEwFINAL NOTExLAT SIGNwHALF NOTEwQUARTER NOTE STEM DOWN<UPwRECITATIVE MARK",
   "wWHOLE NOTEqORONpLEFT REPEAT SIGNqONGAu IMPERFECTA RESTvPERFECTA RESTpMAXIMAqEZZOqINIMAv BLACK",
   "wRESTqOON NOTEHEAD BLACK%WHITEqULTI RESTuPLE MEASURE RESTpNATURAL DOWNxUPqEBENSTIMME",
   "qOTEHEAD BLACKqULL NOTEHEADpONE HUNDRED TWENTY-EIGHTH NOTE=RESTs-LINE STAFFqRNAMENT STROKE-1)0",
   ")1(2(3(4(5(6(7(8(9qTTAVA ALTAwBASSApPARENTHESIS NOTEHEADqEDAL MARKvUP MARKrS SUBPUNCTISqIANO",
   "qLUS NOTEHEADqODATUSrRRECTUSy FLEXUSpQUARTER NOTExRESTxTONE FLAT$SHARPrINDICESIMA ALTA$BASSA",
   "pREPEAT DOTSvED FIGURE-1(2(3rVERSE FINAL BARLINEqIGHT REPEAT SIGNrNFORZANDOpSCANDICUSy FLEXUS",
   "qEGNOrMIBREVIS BLACK!REST!WHITEtMINIMA BLACK!REST!WHITEqHARP DOWNvUPrORT BARLINEqINGLE BARLINE",
   "rX-LINE STAFFtSTRING FRETBOARDsTEENTH NOTEzRESTtY-FOURTH NOTE$RESTqORIqQUARE BwNOTEHEAD BLACK",
   "(WHITEqUBITOpTEMPUS IMPERFECTUM CUM PROLATIONE IMPERFECTA~MPERFECTA DIMINUTION-1",
   "~MPERFECTA DIMINUTION-2~MPERFECTA DIMINUTION-3|PERFECTAwPERFECTUM CUM PROLATIONE IMPERFECTA",
   "^PERFECTA~FECTA DIMINUTION-1qHIRTY-SECOND NOTE%RESTrREE-LINE STAFFqORCULUSx RESUPINUSqR",
   "rIANGLE NOTEHEAD DOWN BLACK:WHITE*LEFT BLACK:WHITE*RIGHT BLACK;WHITE*UP BLACK.RIGHT BLACK",
   ">WHITE.WHITEx-ROUND NOTEHEAD DOWN BLACK@WHITEqURNt SLASHuUPqWO-LINE STAFFpVIRGAqOID NOTEHEAD",
   "pWHOLE NOTEvRESTqITH FINGERNAILSpX NOTEHEADpZbVSbWbYANMAR CONSONANT SIGN MEDIAL HA&RA&WA&YA",
   "yON MEDIAL LA+MA+NAxSHAN MEDIAL WAiDIGIT EIGHToFIVEpOURoNINEoONEoSEVENpIXoTHREEpWOoZERO",
   "iLETTER AqITON RAqUpBAqHApCAqHApDAqDArHAqHApEqASTERN PWO KAREN GHWA*NNA*YWApGAqHAqREAT SApHApI",
   "qIpJAqHApKAqHAsMTI CAxHAwDDAyHAxHAwFAwGAwHAxHAwJAxHAwLLAwNAxYAwRAwSAwTTAyHAwXAwZApLAqLApMA",
   "qON BBAvEtEtJHAtNGApNAqGAqNArYAqYApOpPAqHApRAqUMAI PALAUNG FApSAqGAW KAREN SHAqHAsN AuBAvHAuCA",
   "vHAuDAuFAuGAvHAuHAuJHAuKAvHAuNAvNAvYAuPHAuTHAuZArWE PALAUNG CHA$SHAqSApTArI LAING BA!HAzDA!DA",
   "#HA!HAzFAzGA!HAzJA!HAzLLAzNNA!YAqHAqTArHApUqUpVOCALIC LyLxRyRpWAqESTERN PWO KAREN PWA*THApYA",
   "jOGOGRAM KHAMTI HMyOAYyQNiMODIFIER LETTER KHAMTI REDUPLICATIONySHAN REDUPLICATION",
   "iSHAN DIGIT EIGHTtFIVEuOURtNINEtONEtSEVENuIXtTHREEuWOtZEROjIGN ANUSVARAoSATnDOT BELOW",
   "nKHAMTI TONE-1z3nLITTLE SECTIONnPAO KAREN TONEnRUMAI PALAUNG TONE-5nSECTION",
   "oHAN COUNCIL EMPHATIC TONE!TONE-2(3sSAWsTONE-2x3x5x6nTAI LAING TONE-2$5nVIRAMApSARGA",
   "nWESTERN PWO KAREN TONE-1.2.3.4.5jYMBOL AFOREMENTIONEDqITON EXCLAMATIONvONEvTWOpCOMPLETED",
   "pGENITIVEpLOCATIVEpSHAN EXCLAMATIONuONEiTAI LAING DIGIT EIGHTyFIVEzOURyNINEyONEySEVENzIXyTHREE",
   "zWOyZEROjONE MARK SGAW KAREN HATHI%KE PHOiVOWEL SIGN AAuIvTON A!ItEu ABOVEtGEBA KAREN ItIuI",
   "tKAYAH EEzOEzUtMON IIxOtSGAW KAREN EUuHAN AAyEz ABOVEyFINAL YtTALL AAtUuUtVOCALIC L$L#R$R",
   "tWESTERN PWO KAREN EU/UEaN-ARY CIRCLED DOT OPERATORoPLUS OPERATORoTIMES OPERATORhOPRODUCT",
   "gINTERSECTIONgLOGICAL ANDoORgPRODUCTgSQUARE INTERSECTION OPERATORnUNION OPERATORhUMMATION",
   "gTIMES OPERATORgUNIONl OPERATOR WITH DOT!PLUSgWHITE VERTICAL BAR",
   "bABATAEAN CRUCIFORM NUMBER FOURkLETTER ALEPHsYINrBETHrDALETHrFINAL ALEPHxBETHxHExKAPHxLAMEDH",
   "xMEMxNUNxSHINxYODHrGIMELrHEtTHrKAPHrLAMEDHrMEMrNUNrPErQOPHrRESHrSADHEtMEKHsHINrTAWsETHrWAW",
   "rYODHrZAYINkNUMBER FIVEsOURrONEu HUNDREDrTENsHREEsWENTYtOdLAcIL POLISHdRA SIGNcKcME BADGEcND",
   "eINAGARI HEADSTROKEmLETTER AuAuIuUtBAuHAtCAuHAtDAuDAvHAuHAtEtGAuHAtHAtIuItJAuHAtKAuHAtLAuLAtMA",
   "tNAuGAuNAuYAtOtPAuHAtRAuRAtSAuHAuSAtTAuHAuTAvHAtUuUtVAuOCALIC R$RtYAmSIGN ANUSVARAsVAGRAHA",
   "rSIDDHAMrVIRAMAtSARGAmVOWEL SIGN AAyIyUxExIyIxOxPRISHTHAMATRA ExUyUxVOCALIC R)R",
   "cRROW NO-BREAK SPACEcTIONAL DIGIT SHAPESjPARKcUSEATED FACEcZAR AMULETbBHcSPbECKTIE",
   "cGATED DOUBLE VERTICAL BAR DOUBLE RIGHT TURNSTILEfIVE ACKNOWLEDGEjCIRCLED DIGIT ZERO",
   "rLATIN CAPITAL LETTER A:B:C:D:E:F:G:H:I:J:K:L:M:N:O:P:Q:R:S:T:U:V:W:X:Y:ZrNUMBER EIGHTEEN",
   "zLEVENyFIFTEENzOURTEENyNINETEENySEVENTEENzIXTEENyTHIRTEENzWELVE#NTYrSQUARErTRIANGLE",
   "jDIAGONAL CROSSsDIAMONDsMIDDLE RIGHT TO LOWER CENTREjSQUARED ABrCROSS MARKrIC",
   "rLATIN CAPITAL LETTER A:B:C:D:E:F:G:H:I:J:K:L:M:N:O:P:Q:R:S:T:U:V:W:X:Y:ZrPArQUESTION MARKrSA",
   "rWCcITHER A SUBSET OF NOR EQUAL TOmPERSET OF NOR EQUAL TOjPPROXIMATELY NOR ACTUALLY EQUAL TO",
   "iGREATER-THAN NOR EQUAL TO$IVALENT TOzLESS-THANiLESS-THAN NOR EQUAL TOzIVALENT TOwGREATER-THAN",
   "cLcPTUNEh FORM TWOcRD FACEcSSUSdT WITH EGGSeING DOLLScUTEReRAL CHESS BISHOP",
   "u ROTATED NINETY DEGREES%TWO HUNDRED SEVENTY DEGREESoEQUIHOPPERy ROTATED NINETY DEGREESoKING",
   "s ROTATED NINETY DEGREES#TWO HUNDRED SEVENTY DEGREESpNIGHTu ROTATED FORTY-FIVE DEGREES",
   "%NINETY DEGREES%ONE HUNDRED THIRTY-FIVE DEGREES%THREE HUNDRED FIFTEEN DEGREES",
   "&WO HUNDRED SEVENTY DEGREES=TWENTY-FIVE DEGREESoPAWNs ROTATED NINETY DEGREES",
   "#TWO HUNDRED SEVENTY DEGREESoQUEENt ROTATED NINETY DEGREES$TWO HUNDRED SEVENTY DEGREESoROOK",
   "s ROTATED NINETY DEGREES#TWO HUNDRED SEVENTY DEGREESoTURNED BISHOPvKINGwNIGHTvPAWNvQUEENvROOK",
   "iFACEcW LINEeMOON SYMBOLjWITH FACEeSHEQEL SIGNeTAI LUE DIGIT EIGHTsFIVEtOURsNINEsONEsSEVENtIX",
   "sTHREEtWOsZEROmLETTER FINAL BzDzKzMzN!GzVtHIGH BAyDAyFAyHAyKAzVAyLAyMAyNAzGAyPAzHAyQAySAzUAyTA",
   "zHAzSAyVAyXAzVAyYAtLOW BAxDAxFAxHAxKAyVAxLAxMAxNAyGAxPAyHAxQAxSAyUAxTAyHAySAxVAxXAyVAxYA",
   "mSIGN LAEuVmTHAM DIGIT ONEnONE MARK-1w2mVOWEL SIGN AAzYyEyYxExIIyYxOyAzYyYxUyEzYyUyY",
   "xVOWEL SHORTENERdA ABBREVIATION SIGNfCOMMAfDANDAgIGIT EIGHTlFIVEmOURlNINElONElSEVENmIXlTHREE",
   "mWOlZEROgOUBLE COMMAmDANDAfGAP FILLERfINSERTION SIGNfLETTER AnAnInUmBAnHAmCAnHAmDAnDAoHAnHAmE",
   "mGAnHAmHAmInImJAnHAmKAnHAmLAnHAmMAnHAmNAnGAoHAnHAnNAnYAoHAmOmPAnHAmRAnHAmSAnHAnSAmTAnHAnTAoHA",
   "mUnUmVEDIC ANUSVARAnOCALIC LvLuRvRmWAmYAfOMfPLACEHOLDER MARKfSANDHI MARKgIDDHIhGN ANUSVARA",
   "lVAGRAHAkCANDRABINDUkFINAL ANUSVARAkJIHVAMULIYAkNUKTAkUPADHMANIYAkVIRAMAmSARGAfVOWEL SIGN AArI",
   "rUqEqIrIqOqUrUqVOCALIC LzLyRzRdLINE LEFTiRIGHTdSPAPERcXT LINEfPAGEbIGHT WITH STARScNJA",
   "bKO COMBINING DOUBLE DOT ABOVEoLONG DESCENDING TONEtHIGH TONEtLOW TONEtRISING TONE",
   "oNASALIZATION MARKoSHORT HIGH TONEuLOW TONEuRISING TONEhMAeDANTAYALANfIGIT EIGHTkFIVElOURkNINE",
   "kONEkSEVENlIXkTHREElWOkZEROfOROME SIGNeEXCLAMATION MARKeHIGH TONE APOSTROPHEeLAJANYALAN",
   "fETTER AlBAlCHAlDAnGBASINNAlEmElFAlGBAlHAlIlJAmONA CHAqJAqRAlKAlLAlMAlNmAn WOLOSOmYAo WOLOSOlO",
   "mOlPAlRAmRAlSAlTAlUlWAlYAfOW TONE APOSTROPHEeSYMBOL GBAKURUNENlOO DENNENeTAMAN SIGNbLbNBSP",
   "bO BICYCLESeREAK HEREdENTRYi SIGNdMOBILE PHONESdONE UNDER EIGHTEEN SYMBOLdPEDESTRIANSeIRACY",
   "dSMOKING SYMBOLc-BREAK SPACEcMINAL DIGIT SHAPESeSMA SIGNcN-BREAKING HYPHEN",
   "ePOTABLE WATER SYMBOLdFORKINGcRdDIC MARK SIGNdMAL SUBGROUP OFs OR EQUAL TO",
   "dTH EAST AND SOUTH WEST ARROWmRROWq AND SOUTH EAST ARROWrCROSSING NORTH WEST ARROW",
   "!SOUTH EAST ARROWrWITH HOOKlBLACK ARROWlDOUBLE ARROWlPOINTING BUDuLEAFuVINE LEAF",
   "lSANS-SERIF ARROWlTRIANGLE-HEADED ARROW) TO BARlWHITE ARROWgINDIC FRACTION ONE EIGHTHzHALF",
   "zQUARTERzSIXTEENTHvTHREE QUARTERS#SIXTEENTHSmPLACEHOLDER MARKmQUANTITY MARKpRTER MARK",
   "mRUPEE MARKgWEST AND SOUTH EAST ARROWmRROWq AND NORTH EAST ARROWrCROSSING NORTH EAST ARROW",
   "rTO CORNERuLONG BARrWITH HOOKlBLACK ARROWlDOUBLE ARROWlPOINTING BUDuLEAFuVINE LEAF",
   "lSANS-SERIF ARROWlTRIANGLE-HEADED ARROW) TO BARlWHITE ARROWfEAST-POINTING AIRPLANEcSE",
   "cT A SUBSET OFiPERSET OFfLMOST EQUAL TOfN ELEMENT OFfSYMPTOTICALLY EQUAL TOeCHECK MARK",
   "eEQUAL TOhIVALENT TOeGREATER-THANeIDENTICAL TOeLESS-THANeNORMAL SUBGROUP OFw OR EQUAL TO",
   "ePARALLEL TOeSIGNfQUARE IMAGE OF OR EQUAL TOlORIGINAL OF OR EQUAL TOeTILDEfRUE",
   "dCHED LEFT SEMICIRCLE WITH THREE DOTSjOWER RIGHT-SHADOWED WHITE RIGHTWARDS ARROW",
   "iRIGHT SEMICIRCLE WITH THREE DOTSiUPPER RIGHT-SHADOWED WHITE RIGHTWARDS ARROWdEe PADhGEeBOOK",
   "i WITH DECORATIVE COVERbULdLcMBER EIGHTEEN FULL STOPiLEVEN FULL STOPhFIFTEEN FULL STOP",
   "iOURTEEN FULL STOPhNINETEEN FULL STOPhSEVENTEEN FULL STOPiIGNjXTEEN FULL STOPhTEN FULL STOP",
   "iHIRTEEN FULL STOPiWELVE FULL STOPkNTY FULL STOPdERO SIGNcSHU CHARACTER-1B170u1u2u3u4u5u6u7u8",
   "u9uAuBuCuDuEuFt80u1u2u3u4u5u6u7u8u9uAuBuCuDuEuFt90u1u2u3u4u5u6u7u8u9uAuBuCuDuEuFtA0u1u2u3u4u5",
   "u6u7u8u9uAuBuCuDuEuFtB0u1u2u3u4u5u6u7u8u9uAuBuCuDuEuFtC0u1u2u3u4u5u6u7u8u9uAuBuCuDuEuFtD0u1u2",
   "u3u4u5u6u7u8u9uAuBuCuDuEuFtE0u1u2u3u4u5u6u7u8u9uAuBuCuDuEuFtF0u1u2u3u4u5u6u7u8u9uAuBuCuDuEuF",
   "s200u1u2u3u4u5u6u7u8u9uAuBuCuDuEuFt10u1u2u3u4u5u6u7u8u9uAuBuCuDuEuFt20u1u2u3u4u5u6u7u8u9uAuBuC",
   "uDuEuFt30u1u2u3u4u5u6u7u8u9uAuBuCuDuEuFt40u1u2u3u4u5u6u7u8u9uAuBuCuDuEuFt50u1u2u3u4u5u6u7u8u9",
   "uAuBuCuDuEuFt60u1u2u3u4u5u6u7u8u9uAuBuCuDuEuFt70u1u2u3u4u5u6u7u8u9uAuBuCuDuEuFt80u1u2u3u4u5u6",
   "u7u8u9uAuBuCuDuEuFt90u1u2u3u4u5u6u7u8u9uAuBuCuDuEuFtA0u1u2u3u4u5u6u7u8u9uAuBuCuDuEuFtB0u1u2u3",
   "u4u5u6u7u8u9uAuBuCuDuEuFtC0u1u2u3u4u5u6u7u8u9uAuBuCuDuEuFtD0u1u2u3u4u5u6u7u8u9uAuBuCuDuEuFtE0",
   "u1u2u3u4u5u6u7u8u9uAuBuCuDuEuFtF0u1u2u3u4u5u6u7u8u9uAuBgITERATION MARKcT AND BOLT",
   "bYIAKENG PUACHUE HMONG CIRCLED CAxDIGIT EIGHT%FIVE&OUR%NINE%ONE%SEVEN&IX%THREE&WO%ZERO",
   "xLETTER A(A&CA&DA(LA&E(E&FA&GA&HA)H&I&KA&LA&MA(LA&NA(CA(KA(PA)LA(QA(RA(TA)SA)XA(YA&O(O&PA(LA",
   "&QA&RA(RA&SA&TA(SA(XA&U&VA&W&XA(YA&YA&ZAyOGOGRAM NYAJxSIGN FOR ANIMAL)INVERTEBRATE)LOCATION",
   ")PERSON)THING$XW XWyYLLABLE LENGTHENERxTONE-B$D$G$J$M$S$VaOBJECT REPLACEMENT CHARACTER",
   "cLIQUE ANGLE OPENING DOWNwUPiHYPHENcSERVER EYE SYMBOLbCR AMOUNT OF CHECKeBELT BUCKLEfOW TIE",
   "fRANCH BANK IDENTIFICATIONeCHAIRfUSTOMER ACCOUNT NUMBEReDASHfOUBLE BACKSLASHeFORKeHOOK",
   "eINVERTED FORKcTAGONAL SIGNdOPUSbDENbFFICE BUILDINGbGHAM FEATHER MARKgLETTER AILMnBEITHnCEIRT",
   "oOLLnDAIRnEABHADHpDHADHpMHANCHOLLnFEARNnGORTnIFINoODHADHnLUISnMUINnNGEADALoIONnONNoRnPEITH",
   "nRUISnSAILoTRAIFnTINNEnUATHoILLEANNoRgREVERSED FEATHER MARKgSPACE MARKcONEKbHM SIGNbIL DRUM",
   "bK HAND SIGNbL CHIKI AHADjDIGIT EIGHTpFIVEqOURpNINEpONEpSEVENqIXpTHREEqWOpZERO",
   "jGAAHLAA TTUDDAAGjLETTER AAJsKsMsWrGrLrNGrTqEDDrNrPrRRqIHrNYrRrSqLAsArErIrOrUqOBrHrTTrVqUCrD",
   "rNNrYjMU TTUDDAGl-GAAHLAA TTUDDAAGjPHAARKAAkUNCTUATION DOUBLE MUCAADvMUCAADjRELAA",
   "cD CHINESE HOOK MARKmITERATION MARKeHUNGARIAN CAPITAL LETTER A&A&K&MB&ND%CLOSE E%E&B&C(H(S&D&E",
   "&F&G(Y&H&J&K&L(Y&M(P&N(C(T)-SHAPED SIGN(Y&P&R&S(Z&T(Y&V&Z(S%I&I%NIKOLSBURG OE<UE%O&EE&O",
   "%RUDIMENTA OE;UE%SHORT ER%U&NK&S&UoNUMBER FIFTYxVEvONEy HUNDREDzTHOUSANDvTENoSMALL LETTER A$A",
   "$K$MB$ND#CLOSE E#E$B$C%H%S$D$E$F$G%Y$H$J$K$L%Y$M%P$N%C%T&-SHAPED SIGN%Y$P$R$S%Z$T%Y$V$Z%S#I$I",
   "#NIKOLSBURG OE:UE#O$EE$O#RUDIMENTA OE/UE#SHORT ER#U$NK$S$UeITALIC LETTER AsBEsCHEsDEsEtFtKStL",
   "tMtNtRuStSuHuSsHEsItIsKAtEtHEtUsNORTHERN TSEsOsPEtHEsSHEtOUTHERN TSEsTEtHEsUtUsVEsYEsZE",
   "lNUMERAL FIFTYvVEtONEtTENeKEYeNORTH ARABIAN LETTER AIN!LEFzBEHzDAD#LzES-1$2$3zFEHzGEEM!HAIN",
   "zHAH!EHzKAF!HAHzLAMzMEEMzNOONzQAFzREHzSADzTAH!EH!HAL#EHzWAWzYEHzZAH#INsNUMBER ONEzTEN!WENTY",
   "ePERMIC LETTER ANsBURsCHERYsDOItZHOIuITAsEtFsGAIsHAsItAtEsKOKEsLEIsMENOEsNENOEsOtOsPEEIsREI",
   "sSHCHOOIuOOItIIsTAItSIUsUsVERtOOIsYAuTtERvIvUtRYtUsZATAtHOIhSIAN NUMBER HUNDREDtONEtTENuWENTY",
   "vOmSIGN AsURAMAZDAA#-2#HArBAtGAsUUMISHrCArDAtHYAAUSH!-2sIsUrFArGAsUrHArIrJAsIrKAsUrLArMAsIsU",
   "rNAsUrPArRAsUrSAsHAsSArTAsHAsUrUrVAsIrXAsSHAAYATHIYArYArZAmWORD DIVIDERiONAL COMPUTER",
   "eSOGDIAN FRACTION ONE HALFmLETTER ALEPHvTERNATE AYINuYINtBETHtFINAL ALEPHzBETHzHEzNUN",
   "$ WITH VERTICAL TAILzSADHE& WITH VERTICAL TAILzTAW$ WITH VERTICAL TAILtGIMELtHEvTHtKAPHtLAMEDH",
   "tMEMtNUNtPEtRESH-AYIN-DALETHtSADHEvMEKHuHINtTAWtWAWtYODHtZAYINnIGATURE AYIN-DALETHmNUMBER FIVE",
   "uOURtONEw HUNDREDtTENuHIRTYvREEuWENTYvOgUTH ARABIAN LETTER ALEF!YNzBETHzDALETH!HADHE$LETHzFE",
   "zGHAYN!IMELzHE#THzKAPH!HETHzLAMEDHzMEMzNUNzQOPHzRESHzSADHE#MEKH#T!HINzTAW!ETH!HAW#ETHzWAWzYODH",
   "zZAYNsNUMBER FIFTYzONEvERIC INDICATOReTURKIC LETTER ORKHON A!B!D!EB#D#G#K#L#N#R#S#T#Y!G!L!N!Q",
   "!R!S#H!T!YzBASHzEC!LT!M!NC#G#T#Y!P!SH!ZzI!C!QzO!E#K!P!Q!TsYENISEI A#B#D#E$B$G$K$N%G$T$Y#G#L#NG",
   "#Q#R#SH#T#Y!E#C#NC$T$Y#SH#Z!I#Q!OE$K#QeUYGHUR COMBINING DOT ABOVEzBELOWvTWO DOTS ABOVE&BELOW",
   "lLETTER ALEPHsBETHsFINAL HETHsGIMEL-HETHsKAPHsLAMEDHtESHsMEMsNUNsPEsRESHsSADHEuMEKHtHINsTAW",
   "sWAWsYODHsZAYINlPUNCTUATION BARxFOUR DOTSxTWO BARS#DOTSdER ADULTgMANgWOMANcIVEbM SYMBOL",
   "bN WITH EXCLAMATION MARK WITH LEFT RIGHT ARROW ABOVEcCOMING AUTOMOBILEjBUSjFIRE ENGINE",
   "jPOLICE CARjTAXIcE BUTTON MOUSEeDOT LEADERiOVER TWO DOTS PUNCTUATIONd-PIECE SWIMSUITcION",
   "bPEN BOOKhXfCENTRE ASTERISKmBLACK STARmCROSSmTEARDROP-SPOKED ASTERISKfFILE FOLDERgOLDER",
   "fHANDS SIGNfLOCKfMAILBOX WITH LOWERED FLAGsRAISED FLAGfSUBSEThPERSET",
   "e-CIRCUIT-OUTPUT H-TYPE SYMBOLuL-TYPE SYMBOLfOUTLINED RIGHTWARDS ARROWdRATING SYSTEM COMMAND",
   "cHIUCHUScPOSITIONcTICAL DISCm ICONeON KEYbR WITH DOT INSIDEcANGE BOOKhHEARTfUTANcIGINAL OF",
   "dYA AI LENGTH MARKhU LENGTH MARKgDIGIT EIGHTmFIVEnOURmNINEmONEmSEVENnIXmTHREEnWOmZERO",
   "gFRACTION ONE EIGHTHtHALFtQUARTERtSIXTEENTHpTHREE QUARTERSvSIXTEENTHSgISSHARgLETTER AoAoIoUnBA",
   "oHAnCAoHAnDAoDApHAoHAnEnGAoHAnHAnIoInJAoHAnKAoHAnLAoLAnMAnNAoGAoNAoYAnOnPAoHAnRAoHAoRAnSAoHA",
   "oSAnTAoHAoTApHAnUoUnVAoOCALIC LwLvRwRnWAnYAoYAgSIGN ANUSVARAmVAGRAHAlCANDRABINDUlNUKTA",
   "lOVERLINElVIRAMAnSARGAgVOWEL SIGN AAsIsUrErIsIrOrUsUrVOCALIC L!LzR!RcNATE LEFT PARENTHESIS",
   "hRIGHT PARENTHESIScTHODOX CROSSbSAGE CAPITAL LETTER AwHwIxNvBRAvCHAvDHAvEwHCHAxKAxPAxTAySAwIN",
   "vGHAvHAwYAvIvKAwHAwYAvLAvMAvNAvOwINvPAvSAwHAvTAwSAxHAvUvWAvZAwHAgSMALL LETTER AuHuIvNtBRAtCHA",
   "tDHAtEuHCHAvKAvPAvTAwSAuINtGHAtHAuYAtItKAuHAuYAtLAtMAtNAtOuINtPAtSAuHAtTAuSAvHAtUtWAtZAuHAcC",
   "cMANYA DIGIT EIGHToFIVEpOURoNINEoONEoSEVENpIXoTHREEpWOoZEROiLETTER AqAqLEFpBApCAYNpDEELqHApEqE",
   "pFApGApHApIpJApKAAFqHApLAANpMIINpNUUNpOqOpQAAFpRApSAqHIINpTApUpWAWpXApYAbTTER",
   "dOMAN SIYAQ ALTERNATE NUMBER EIGHT(FIVE)OUR, HUNDRED(NINE(SEVEN)IX+ HUNDRED(TEN+ THOUSAND)HREE",
   ")WO+ THOUSANDoFRACTION ONE HALF#SIXTHoMARRATANoNUMBER EIGHT! HUNDRED#THOUSAND!Y# THOUSAND",
   "vFIFTY! THOUSANDxVEz HUNDRED!THOUSANDwORTY! THOUSANDxURz HUNDRED!THOUSANDvNINEz HUNDRED",
   "!THOUSANDzTY# THOUSANDvONEy HUNDREDzTHOUSANDvSEVEN! HUNDRED#THOUSAND!TY$ THOUSANDwIXy HUNDRED",
   "zTHOUSANDyTY! THOUSANDvTENy THOUSANDwHIRTY# THOUSANDxREE! HUNDRED#THOUSANDwWENTY# THOUSANDxO",
   "y HUNDREDzTHOUSANDbUNCE SIGNcTBOX TRAYdLINED BLACK STARjGREEK CROSSjLATIN CROSSjWHITE STAR",
   "bVERHEATED FACEeLAPhPING BLACK SQUARESmWHITE AND BLACK SQUARESsSQUARESfINEbWLbXbYSTERaPACKAGE",
   "cDdDING CHARACTERcGEe FACING UPfWITH CIRCLED TEXTlURLeReSdODAcHAWH HMONG CLAN SIGN FAJxHAMzWJ",
   "xKHAByOOyWMxLAUJyISxMUASxPHABxTHOJySABzHEEJzWBxVAJyWJxXYOOJxYAJyEEGoONSONANT AUxCAUyHAUxHAU",
   "yLAUyNAUxLAUxMAUxNAUyCHAUyKAUyLAUyTHAUzSAUxPLHAUxQHAUxRAUxVAUxXAUxYAUnDIGIT EIGHTtFIVEuOUR",
   "tNINEtONEtSEVENuIXtTHREEuWOtZEROnMARK CIM HOMwKESxHAVwSOxUAMwTAUMxUBnNUMBER HUNDRED MILLIONS#S",
   "uMILLIONSuTEN BILLIONSyTHOUSANDSxSvRILLIONSnSIGN AVsCIM CHEEMxUAM TSHOOJwHAIS LUS NTOG NTOG",
   "wNRES TOSwPUB DAWBwTSOV ROGxXWV! CHWVsHLItNUBsIB YAMsLOSsMEEJ SUABxTSEEBtUSsNQIGtTUJsTAU",
   "tHIRD-STAGE HLItXHEEJ CEEVsVOS FEEMwLUBwNRUAwSEEVwTHIAByOMxSHAB CEEBsXAUStIABtYEEM FAIByNTXIV",
   "yRHOyTOVuOOsZWJ THAJnVOWEL KAABwVvBvIBwVvUBwVvVvWBwVuEBvEBwVvVuIABwVvBvVuOBvOBwVvVuUABwVvBvV",
   "uWBvVcLLASdM BRANCHfDOWN HANDfTREEfUP HANDeS UP TOGETHEReYRENE LEFT-POINTING FLEURON",
   "mTTER ALEPHsYINrBETHrDALETHrFINAL NUNrGIMELrHEtTHrKAPHrLAMEDHrMEMrNUNrPErQOPHrRESHrSADHEtMEKH",
   "sHINrTAWsETHrWAWrYODHrZAYINkNUMBER FIVEsOURrONErTENsHREEsWENTYtOkRIGHT-POINTING FLEURONcNCAKES",
   "dDA FACEcPERCLIPcRACHUTEeGRAPH SEPARATORjOSjUS MARKeLLEL TOjWITH HORIZONTAL STROKE",
   "oTILDE OPERATORdENTHESIZED DIGIT EIGHTuFIVEvOURuNINEuONEuSEVENvIXuTHREEvWOoHANGUL CHIEUCH$ A",
   "wIEUC! A#UvHIEUH! AvIEUNG! AvKHIEUKH$ AwIYEOK# AvMIEUM! AvNIEUN! AvPHIEUPH$ AwIEUP! AvRIEUL! A",
   "vSIOSz AvTHIEUTH$ AwIKEUT# AoIDEOGRAPH ALLIANCEyCALLzONGRATULATIONyEARTHzIGHTzNTERPRISE",
   "yFESTIVALzINANCIAL!RE!VEzOURyHAVEyLABORyMETALzOONyNAMEzINEyONEyREACH!PRESENT!SOURCE#TySELF!VEN",
   "zIXzOCIETYzPECIALzTOCK!UDYzUN!PERVISEyTENzHREEzWOyWATERzOODoKOREAN CHARACTER O HU)JEON",
   "oLATIN CAPITAL LETTER A,B,C,D,E,F,G,H,I,J,K,L,M,N,O,P,Q,R,S,T,U,V,W,X,Y,ZuSMALL LETTER A*B*C*D",
   "*E*F*G*H*I*J*K*L*M*N*O*P*Q*R*S*T*U*V*W*X*Y*ZoNUMBER EIGHTEENwLEVENvFIFTEENwOURTEENvNINETEEN",
   "vSEVENTEENwIXTEENvTENwHIRTEENwWELVEyNTYdROTdT ALTERNATION MARKeIAL DIFFERENTIALiLINE BACKWARD",
   "nDOWNnFORWARDnUPhLY-RECYCLED PAPER SYMBOLeNERSHIP SIGNeY POPPERcSSED SYMBOLfNGER SHIP",
   "eIVE-PULL-DOWN-OUTPUT SYMBOLnUP-OUTPUT SYMBOLePORT CONTROLcU CIN HAU GLOTTAL STOPy FINAL",
   "zVARIANTmLETTER AtBAtCAuHAtDAtEtFAuINAL KzLzMzN!GzPzTzWzYtGAtHAtIuAtKAuHAtLAtMAtNAuGAtOtPAuHA",
   "tRAtSAtTAuHAtUuAtVAtZAnOW-FALLING TONE$ FINAL%LONG* FINALmMID-LEVEL TONE! FINAL#LONG FINAL",
   "mRISING TONEx FINALyLONG$ FINALmSANDHI GLOTTAL STOP( FINALtTONEx FINALyLONG$ FINALcW PRINTSbDF",
   "cIbEACE SYMBOLeHeOCKdNUTSdRcDESTRIANcN OVER STAMPED ENVELOPEdCILdGUINdSIVE FACEdTAGRAM",
   "cOPLE HUGGINGcR MILLE SIGNeSIGNeTEN THOUSAND SIGNdCENT SIGNdFORMING ARTSdMANENT PAPER SIGN",
   "dPENDICULARn WITH SdSEVERING FACEeON BOWING DEEPLYhCLIMBINGhDOING CARTWHEELhFROWNING",
   "hIN LOTUS POSITIONkSTEAMY ROOMhRAISING BOTH HANDS IN CELEBRATIONhWITH BALLnLOND HAIRmCROWN",
   "mFOLDED HANDSmHEADSCARFmPOUTING FACEgAL COMPUTERePECTIVEcSETA SIGNdO SIGNcTRI DISH",
   "bHAGS-PA DOUBLE HEAD MARKjLETTER ArLTERNATE YArSPIRATED FAqBAqCAsNDRABINDUrHAqDArDArZAqErEqFA",
   "qGArGAqHAqIqJAqKArHAqLAqMAqNArGArNArYAqOqPArHAqQAqRAqSArHArMALL AqTArHArSAsHArTAsHAqU",
   "qVOICED HAvLESS SHAqWAqXAqYAqZArHAjMARK DOUBLE SHADoSHADjSINGLE HEAD MARKkUBJOINED LETTER RA",
   "!WA!YAlPERFIXED LETTER RAdISTOS DISC SIGN ARROWtBEEwHIVEuOOMERANGvWuULLS LEGtCAPTIVE",
   "vRPENTRY PLANEvTuHILDuLUBuOLUMNvMBxINING OBLIQUE STROKEtDOLIUMvVEtEAGLEtFLUTEtGAUNTLETuRATER",
   "tHELMETuIDEuORNtLIDvLYtMANACLESvTTOCKtOX BACKtPAPYRUSuEDESTRIANuLANE TREEvUMED HEADtRAMuOSETTE",
   "tSAWuHIELDwPuLINGuMALL AXEuTRAINERtTATTOOED HEADuIARAuUNNYtVINEtWAVY BANDuOMAN",
   "cILIPPINE DOUBLE PUNCTUATIONlSINGLE PUNCTUATIONcOENICIAN LETTER AINtLFsBETsDELTsGAMLsHEuTsKAF",
   "sLAMDsMEMsNUNsPEsQOFsROSHsSADEtEMKtHINsTAUtETsWAUsYODsZAIlNUMBER ONEv HUNDREDsTENtHREEtWENTYuO",
   "lWORD SEPARATORdLUSbICKeUP TRUCKcEcGd FACEeNOSEcLCROW SIGNdE OF POOdLcNATAdCHED FINGERS",
   "fING HANDdE DECORATIONeAPPLEdWHEEL STARcSCESdTOLcTCHFORKj WITH TEE TOPbLACARD",
   "eE OF INTEREST SIGNjWORSHIPdNCK CONSTANTp OVER TWO PIdYGROUND SLIDEeING CARD ACE OF CLUBS",
   "uDIAMONDSuHEARTSuSPADESnBACKoLACK JOKERnEIGHT OF CLUBSwDIAMONDSwHEARTSwSPADESnFIVE OF CLUBS",
   "vDIAMONDSvHEARTSvSPADESoOOLpUR OF CLUBSvDIAMONDSvHEARTSvSPADESnJACK OF CLUBSvDIAMONDSvHEARTS",
   "vSPADESnKING OF CLUBSvDIAMONDSvHEARTSvSPADESoNIGHT OF CLUBSxDIAMONDSxHEARTSxSPADES",
   "nNINE OF CLUBSvDIAMONDSvHEARTSvSPADESnQUEEN OF CLUBSwDIAMONDSwHEARTSwSPADESnRED JOKER",
   "nSEVEN OF CLUBSwDIAMONDSwHEARTSwSPADESoIX OF CLUBSuDIAMONDSuHEARTSuSPADESnTEN OF CLUBS",
   "uDIAMONDSuHEARTSuSPADESoHREE OF CLUBSwDIAMONDSwHEARTSwSPADESoRUMP-1u0u1u2u3u4u5u6u7u8u9t2u0u1",
   "t3t4t5t6t7t8t9oWO OF CLUBSuDIAMONDSuHEARTSuSPADESnWHITE JOKERcDcUdNGERdS SIGN",
   "j ABOVE EQUALS SIGNkIN LEFT HALF CIRCLEnRIGHT HALF CIRCLEnTRIANGLEkWITH BLACK TRIANGLE",
   "pCIRCUMFLEX ACCENT ABOVEpDOT BELOWpSMALL CIRCLE ABOVEqUBSCRIPT TWOpTILDE ABOVEvBELOW",
   "e-MINUS SIGNdTOf FORM FIVEmOURlTHREEmWObMbOCKET CALCULATORcLICE CARkS REVOLVING LIGHThOFFICER",
   "cODLEcP DIRECTIONAL FORMATTINGqISOLATEdCORNcRTABLE STEREOcSEIDONdITION INDICATORdTAL HORNhMARK",
   "l FACEeBOXcT OF FOODdABLE WATER SYMBOLeTOdTED PLANTcUCHdLTRY LEGdND SIGNdRING LIQUID",
   "dTING CAT FACEiFACEcWER ON SYMBOLi-OFF SYMBOLgSLEEP SYMBOLhYMBOLbRAYER BEADScECEDES",
   "i ABOVE ALMOST EQUAL TOpEQUALS SIGNpNOT ALMOST EQUAL TOtEQUAL TOpSINGLE-LINE EQUALS SIGN",
   "#NOT EQUAL TOjBUT NOT EQUIVALENT TOjOR EQUAL TOpIVALENT TOjUNDER RELATIONdGNANT MANjPERSON",
   "jWOMANdSCRIPTION TAKEeENTATION FORM FOR VERTICAL COLON*MMA(EM DASH)N DASH)XCLAMATION MARK",
   "(HORIZONTAL ELLIPSIS(IDEOGRAPHIC COMMA?FULL STOP(LEFT ANGLE BRACKET.BLACK LENTICULAR BRACKET",
   ".CORNER BRACKET/URLY BRACKET.DOUBLE ANGLE BRACKET.PARENTHESIS.SQUARE BRACKET",
   ".TORTOISE SHELL BRACKET.WHITE CORNER BRACKET>LENTICULAR BRACKET)OW LINE(QUESTION MARK",
   "(RIGHT ANGLE BRACKET/BLACK LENTICULAR BRACKET/CORNER BRACKET:URLY BRACKET/DOUBLE ANGLE BRACKET",
   "/PARENTHESIS/SQUARE BRACKET/TORTOISE SHELL BRACKET/WHITE CORNER BRACKET?LENTICULAR BRACKET",
   "~LAR BRAKCET(SEMICOLON(TWO DOT LEADER(WAVY LOW LINEdTZELdVIOUS PAGEcIMEdNCEgSSeT SCREEN SYMBOL",
   "fERh ICONdVACY MESSAGEfTE USE ONEmTWOl-1m2cOBING CANEdHIBITED SIGNdJECTIVEdPERTY LINEeORTION",
   "kAL TOdSERPINAbSALTER PAHLAVI FOUR DOTS WITH CROSS(DOTqLETTER ALEPHxBETHxDALETHxGIMELxHEzTH",
   "xKAPHxLAMEDHxMEM-QOPHxNUNxPExSADHEzMEKHyHINxTAWxWAW-AYIN-RESHxYODHxZAYINqNUMBER FOURxONE",
   "! HUNDREDxTENyHREEyWENTYzOqSECTION MARKqTURNED SECTION MARKbU1c2cBLIC ADDRESS LOUDSPEAKER",
   "cNCTUATION SPACEgS ELEVATUS MARKcRPLE HEARTdSEcSHPINcT LITTER IN ITS PLACE SYMBOL",
   "aQUADRANT LOWER LEFTpRIGHTjUPPER LEFTt AND LOWER LEFT AND LOWER RIGHT&RIGHT",
   "yUPPER RIGHT AND LOWER LEFT]RIGHTpRIGHTu AND LOWER LEFT, AND LOWER RIGHT",
   "fUPLE INTEGRAL OPERATORkPRIMEdRTER NOTEdTERNION INTEGRAL OPERATORcESTION EXCLAMATION MARKjMARK",
   "iED EQUAL TOcINCUNXcOTATION MARKaRABBITg FACEcCCOONdING CARhMOTORCYCLEcDICAL SYMBOL BOTTOMeO",
   "f BUTTONfACTIVE SIGNcILWAY CARiTRACKdNeBOWdSED BACK OF HANDhCOMMAhDOTkTED INTERPOLATION MARKER",
   "hFISThHANDl WITH FINGERS SPLAYEDrPART BETWEEN MIDDLE AND RING FINGERShINTERPOLATION MARKER",
   "hMC SIGNiD SIGNiR SIGNhSQUAREcMcTdIOcZORbECEIPTdORD SEPARATORdREATIONAL VEHICLE",
   "dYCLED PAPER SYMBOLgING SYMBOL FOR GENERIC MATERIALSvTYPE-1 PLASTICS!2 PLASTICS!3 PLASTICS",
   "!4 PLASTICS!5 PLASTICS!6 PLASTICS!7 PLASTICScD APPLEeGIFT ENVELOPEcFERENCE MARK",
   "cGIONAL INDICATOR SYMBOL LETTER A*B*C*D*E*F*G*H*I*J*K*L*M*N*O*P*Q*R*S*T*U*V*W*X*Y*Z",
   "eSTERED SIGNcJANG CONSONANT SIGN HwNxGwRhLETTER AoBAoCAoDAoGAoHAoJAoKAoLAoMApBAoNApDApGAqGApYA",
   "qJAoPAoRAoSAoTAoWAoYAhSECTION MARKhVIRAMAiOWEL SIGN AItUsEtAtUsIsOsUcLIEVED FACEcMINDER RIBBON",
   "cPLACEMENT CHARACTERcSPONSEdTRICTED LEFT ENTRY-1w2fOOMcTURN LEFThRIGHThSYMBOL",
   "cVERSE CHECKER BOARDiINDEXiLIGHT FOUR POINTED PINWHEEL STARkNE FEEDiSOLIDUSp OPERATOR",
   "qPRECEDING SUBSETqWITH HORIZONTAL STROKEiTILDE OPERATOR ABOVE LEFTWARDS ARROW%RIGHTWARDS ARROW",
   "hD ANGLEo WITH UNDERBARjCOMMAjDOUBLE PRIMEv QUOTATION MARKqSTROKE NOT SIGNjEMPTY SET",
   "jFORKED PARAGRAPHOSjHAND WITH MIDDLE FINGER EXTENDEDjNOT SIGNjPILCROW SIGNkRIMEjQUESTION MARK",
   "jRAISED HAND WITH FINGERS SPLAYEDkIGHT ANGLEkOTATED FLORAL HEART BULLETjSANS-SERIF CAPITAL L",
   "kEMICOLONjTHUMBS DOWN SIGNqUP SIGNkILDEo EQUALSkRIPLE PRIMEjVICTORY HANDdOLVING HEARTS",
   "bHINOCEROSbIcAL SIGNcBBONg ARROW DOWN LEFTsRIGHTnLEFT DOWNsUPnRIGHT DOWNtUPnUP LEFTqRIGHT",
   "cCE BALLfCRACKERcFLEcGHT AND LOWER ONE EIGHTH BLOCKkUPPER ONE EIGHTH BLOCKiGER BUBBLEjLE",
   "l BRACKETt WITH DOTmDOTTED SUBSTITUTION MARKERmSUBSTITUTION MARKERmVARIANT WITH SQUARE",
   "mWITH ARCrDOWNWARDS ZIGZAG ARROWhRC GREATER-THAN BRACKETiROW WITH CIRCLED PLUSrSMALL CIRCLE",
   "gBLACK LENTICULAR BRACKETmTORTOISE SHELL BRACKETgCEILINGhORNER BRACKEThURLY BRACKET",
   "t LOWER HOOKuMIDDLE PIECEuUPPER HOOKgDOTTED SUBSTITUTION BRACKETiUBLE ANGLE BRACKET",
   "oRROW WITH ROUNDED HEADnPARENTHESISnQUOTATION MARKnWIGGLY FENCEgFISH TAILiVE EIGHTHS BLOCK",
   "hLOORgHALF BLACK CIRCLErSTARnOCKlFOLDERlMEDIUM SHADElRUNNING MANiND TELEPHONE RECEIVER",
   "gLOW PARAPHRASE BRACKETgNORMAL FACTOR SEMIDIRECT PRODUCTgONE EIGHTH BLOCKkQUARTER BLOCK",
   "hPEN SQUARED DOThUTER JOINgPARENTHESISr EXTENSIONsLOWER HOOKsUPPER HOOK",
   "gRAISED OMISSION BRACKETgS-SHAPED BAG DELIMITERhEMIDIRECT PRODUCTiVEN EIGHTHS BLOCK",
   "hIDEWAYS U BRACKETiNGLE QUOTATION MARKhPEAKERn WITH ONE SOUND WAVEtTHREE SOUND WAVES",
   "jECH BUBBLEhQUARE BRACKETu EXTENSIONvLOWER CORNERvUPPER CORNERvWITH DOUBLE STROKE!QUILL!STROKE",
   "!TICK IN BOTTOM CORNER+TOP CORNER!UNDERBARhUBSTITUTION BRACKETgTACK",
   "hHIRD WHITE RIGHT POINTING INDEXiOUGHT BUBBLEiREE EIGHTHS BLOCKmQUARTERS BLOCK",
   "hORTOISE SHELL BRACKEThRANSPOSITION BRACKETiIANGLEo ABOVE LEFT TRIANGLEmULAR ONE QUARTER BLOCK",
   "gVERTICAL BAR WITH QUILLqOX LINEgWHITE CORNER BRACKETnURLY BRACKETmLENTICULAR BRACKET",
   "mPARENTHESISmSQUARE BRACKETmTORTOISE SHELL BRACKEThIGGLY FENCEf-FACING ARMENIAN ETERNITY SIGN",
   "nFISTnSVASTI SIGNy WITH DOTSgHANDED INTERLACED PENTAGRAMgPOINTING ANGLE BRACKET",
   "pCURVED ANGLE BRACKETpDOUBLE ANGLE QUOTATION MARKpMAGNIFYING GLASS",
   "gSHADED WHITE RIGHTWARDS ARROWhIDE ARC CLOCKWISE ARROWgTO-LEFT EMBEDDINGoISOLATEoMARKoOVERRIDE",
   "fHAND INTERIOR PRODUCTfWARDS ARROWq ABOVE ALMOST EQUAL TOxREVERSE ALMOST EQUAL TO",
   "(TILDE OPERATORxSHORT LEFTWARDS ARROWxTILDE OPERATORsND UPPER AND LOWER ONE EIGHTH BLOCK",
   "rFROM BARz TO BLACK DIAMONDrOVER LEFTWARDS ARROWrTHROUGH GREATER-THANzSUPERSETzXsO BAR",
   "vLACK DIAMONDrWITH CORNER DOWNWARDSwDOTTED STEMyUBLE VERTICAL STROKEwEQUILATERAL ARROWHEAD",
   "wHOOKwLARGE TRIANGLE ARROWHEADxOOPwMEDIUM TRIANGLE ARROWHEADwNOTCHED TAILwPLUS BELOW",
   "wSMALL EQUILATERAL ARROWHEAD$TRIANGLE ARROWHEADxTROKEwTAIL! WITH DOUBLE VERTICAL STROKE",
   ")VERTICAL STROKExIP DOWNWARDS!UPWARDSwVERTICAL STROKEq-TAILlBACK-TILTED SHADOWED WHITE ARROW",
   "mLACK ARROWrCIRCLED WHITE ARROWmOTTOM SHADED WHITE ARROWlCOMPRESSED ARROWlDASHED ARROW",
   "mOUBLE ARROWx FROM BARyWITH STROKE%VERTICAL STROKEx-TAILsDASH ARROWlFINGER-POST ARROW",
   "mRONT-TILTED SHADOWED WHITE ARROWlHANDnRPOON OVER LEFTWARDS HARPOON",
   "tWITH BARB DOWN ABOVE LEFTWARDS HARPOON WITH BARB DOWN+BELOW LONG DASH+FROM BAR+TO BAR*WARDS",
   "%UP ABOVE LEFTWARDS HARPOON WITH BARB UP;ONG DASH:RIGHTWARDS HARPOON WITH BARB DOWN)FROM BAR",
   ")TO BAR(WARDSmEAVY ARROWrCOMPRESSED ARROWlLEFT-SHADED WHITE ARROWlOPEN-HEADED ARROW",
   "lPAIRED ARROWSlQUADRUPLE ARROWlRIGHT-SHADED WHITE ARROWmOCKETlSANS-SERIF ARROWmQUARED ARROW",
   "oIGGLE ARROWlTOP SHADED WHITE ARROWmRIANGLE ARROWHEADt-HEADED ARROW",
   ") OVER LEFTWARDS TRIANGLE-HEADED ARROW*TO BAR*WITH BOLD SHAFT:DOUBLE HORIZONTAL STROKE",
   "[VERTICAL STROKE:HEAVY SHAFT:LONG TIP DOWNWARDS^UPWARDS:MEDIUM SHAFT:NARROW SHAFT",
   ":VERY HEAVY SHAFT#DASHED ARROW#PAIRED ARROWSoPLE ARROWsDASH ARROWmWO HEADED ARROW",
   "o-HEADED ARROW FROM BAR$WITH DOUBLE VERTICAL STROKE*TAIL/ WITH DOUBLE VERTICAL STROKE",
   "?VERTICAL STROKE+RIANGLE ARROWHEADS*VERTICAL STROKEwTRIPLE DASH ARROWlWAVE ARROWmHITE ARROW",
   "w FROM WALLxWITHIN TRIANGLE ARROWHEADcNGe ABOVEfBUOYfEQUAL TOfIN EQUAL TOfOPERATORfPOINT",
   "eED PLANETeING BELLcSING DIAGONAL CROSSING FALLING DIAGONALzSOUTH EAST ARROWbLEcIcMcO",
   "bOASTED SWEET POTATOcBOT FACEcCKeETcLL OF PAPEReED-UP NEWSPAPERfR COASTERhSKATE",
   "eING ON THE FLOOR LAUGHINGcMAN AS SIGNgCENTURIAL SIGNgDENARIUS SIGNhIMIDIA SEXTULA SIGN",
   "hUPONDIUS SIGNgNUMERAL EIGHTpLEVENoFIFTYt EARLY FORMuTHOUSANDqVEs HUNDREDtTHOUSANDpOURoNINE",
   "oONEr HUNDREDz THOUSANDsTHOUSAND! C DoREVERSED ONE HUNDREDoSEVENpIXr LATE FORMoTENr THOUSAND",
   "pHREEpWELVEqOgQUINARIUS SIGNgSEMUNCIA SIGNiSTERTIUS SIGNiXTANS SIGNkULA SIGNhILIQUA SIGN",
   "gUNCIA SIGNcOSTERcSEeTTEcTATED CAPITAL QiFLORAL HEART BULLETiHEAVY BLACK HEART BULLET",
   "iLIGHT FOUR POINTED BLACK CUSPiWHITE FOUR POINTED CUSPcUND PUSHPINgTARGETfED SYMBOL FOR CAItFU",
   "tLUtSHOUvUANGXItXIcWBOATbSbUBLE SIGNcGBY FOOTBALLcLE-DELAYEDcMI DIGIT EIGHTlFIVEmOURlNINElONE",
   "lSEVENmIXlTHREEmWOfFRACTION ONE HALFsQUARTERsTHIRDoTWO THIRDSfNUMBER EIGHT HUNDREDrYmFIFTY",
   "oVE HUNDREDnORTYoUR HUNDREDmNINE HUNDREDqTYmONE HUNDREDmSEVEN HUNDREDrTYnIX HUNDREDpTYmTEN",
   "nHIRTYoREE HUNDREDnWENTYoO HUNDREDcNIC ARLAUG SYMBOLgBELGTHOR SYMBOLgCROSS PUNCTUATION",
   "gLETTER AC AoESCoLGIZ EOLHXoNSUZ AnBERKANAN BEORC BJARKAN BnCoALCoEALCpNoWEORTHnDoAGAZ DAEG D",
   "oOTTED-LuNuPnEoARoHWAZ EH EoNGoTHnFEHU FEOH FE FoRANKS CASKET AC$ESC#EH#IS#OSnGoARoEBO GYFU G",
   "pRnHAEGL HpGLAZ HnICELANDIC-YRoNGqWAZoORoSAZ IS ISS IoWAZ EOHnJERAN JnKoAUN KrA",
   "nLAUKAZ LAGU LOGR LoONG-BRANCH-AR AEzHAGALL HzMADR MzOSS OzYRnMANNAZ MAN MnNAUDIZ NYD NAUD NnO",
   "oEoNoOoPEN-PoS OoTHALAN ETHEL OnPERTHO PEORTH PnQnRAIDO RAD REID RnSHpORT-TWIG-AR AyBJARKAN B",
   "yHAGALL HyMADR MyNAUD NyOSS OySOL SyTYR TyYRoIGEL LONG-BRANCH-SOL SoOWILO SoTAN",
   "nTHURISAZ THURS THORNoIWAZ TIR TYR TnURUZ UR UnVnWoUNJO WYNN WnXnYoRnZgMULTIPLE PUNCTUATION",
   "gSINGLE PUNCTUATIONgTVIMADUR SYMBOLdNEReING SHIRT WITH SASHcPEE SIGN",
   "cSSIAN ASTROLOGICAL SYMBOL BINOVILE$NOVILE$QUINTILE$SENTAGON$TREDECILE$VIGINTILEaS IN TRIANGLE",
   "bAFETY PINhVESTcGITTARIUScILBOATcKE BOTTLE AND CUPcLT SHAKEReIREdUTING FACE",
   "cMARITAN ABBREVIATION MARKkLETTER ALAFrBAAsITrDALATrFIrGAMANrINsTsYrKAAFrLABATrMIMrNUNrQUF",
   "rRISHrSHANsINGAATrTAAFsITsSAADIYrYUTrZENkMARK DAGESHpEPENTHETIC YUTpINr-ALAFpNEQUDAApOCCLUSION",
   "lODIFIER LETTER EPENTHETIC YUT!I!SHORT AkPUNCTUATION AFSAAQxNGEDyNAAUxRKAANUxTMAAUwBAU",
   "wMELODIC QITSAwNEQUDAAwQITSAwSHIYYAALAAxOF MASHFAATwTURUwZAEFxIQAAkVOWEL SIGN AwAvEvIvLONG A#A",
   "!E!I!UvOwVERLONG A(AvSHORT AwUKUNvUcNDWICHdS-SERIF HEAVY DOUBLE COMMA QUOTATION MARK ORNAMENT",
   "yTURNED COMMA QUOTATION MARK ORNAMENTrLOW DOUBLE COMMA QUOTATION MARK ORNAMENT",
   "lINTERROBANG ORNAMENTcRIcTELLITEj ANTENNAdURNcURASHTRA CONSONANT SIGN HAARUlDANDAmIGIT EIGHT",
   "rFIVEsOURrNINErONErSEVENsIXrTHREEsWOrZEROmOUBLE DANDAlLETTER AtAtItUsBAtHAsCAtHAsDAtDAuHAtHAsE",
   "tEsGAtHAsHAsItIsJAtHAsKAtHAsLAtLAsMAsNAtGAtNAtYAsOtOsPAtHAsRAsSAtHAtSAsTAtHAtTAuHAsUtUsVA",
   "tOCALIC L#L!R#RsYAlSIGN ANUSVARAqCANDRABINDUqVIRAMAsSARGAlVOWEL SIGN AAxIxUwExEwIxIwOxOwUxU",
   "wVOCALIC L(L&R(ReOPODcXOPHONEbCALESdRFcHOOLg SATCHELcIcOOTERdRPIONgUScREENeWDRIVER",
   "dIPT CAPITAL BpEpFpHpIpLpMpPpRhLIGATURE ET ORNAMENThSMALL EnGnLnOdOLLdUPLEbEALdT",
   "cCOND PLACE MEDALdTION SIGNeORcDNAcE-NO-EVIL MONKEYdDLINGcGMENThED DIGIT EIGHTqFIVErOURqNINE",
   "qONEqSEVENrIXqTHREErWOqZEROcLFIEcMICOLONeDIRECT PRODUCT WITH BOTTOM CLOSEDeSEXTILE",
   "cPARATED SYMBOLcRIOUS FACE WITH SYMBOLS COVERING MOUTHdVICE MARKcSAME DOTdQUIQUADRATEcT MINUS",
   "eTRANSMIT STATEcWING NEEDLEcXTILEbGCbHADOWED WHITE CIRCLEpLATIN CROSSpSTARdLLOW PAN OF FOOD",
   "dMROCKdRADA ABBREVIATION SIGNiCONTINUATION SIGNiDANDAjIGIT EIGHToFIVEpOURoNINEoONEoSEVENpIX",
   "oTHREEpWOoZEROjOUBLE DANDAiEKAMjXTRA SHORT VOWEL MARKiHEADSTROKEiLETTER AqAqIqUpBAqHApCAqHApDA",
   "qDArHAqHApEpGAqHApHApIqIpJAqHApKAqHApLAqLApMApNAqGAqNAqYApOpPAqHApRApSAqHAqSApTAqHAqTArHApUqU",
   "pVAqOCALIC LyLxRyRpYAiOMiSANDHI MARKjECTION MARK-1v2kPARATORjIGN ANUSVARAoVAGRAHAnCANDRABINDU",
   "nINVERTED CANDRABINDUnJIHVAMULIYAnNUKTAnSIDDHAMnUPADHMANIYAnVIRAMApSARGAjUTRA MARK",
   "iVOWEL MODIFIER MARKoSIGN AAuIuUtEtIuItOtPRISHTHAMATRA EtUuUtVOCALIC L$L#R$ReKdVED ICE",
   "eIAN LETTER ADOqGEqHqIRqRErRAYqSHqWEpBIBpCHURCHpDEADpEARrTqGGqRRpFEEpGAGpHA-HAqUNGpIANqCEqF",
   "pJUDGEpKICKpLOLLpMEASUREqIMEpNUNpOAKqILqNqOZEqRqUTpPEEPpROARpSOqUREpTHEYrIGHqOTpUPpVOWpWOErOL",
   "pYEArWpZOOcEEPcIELDdFT INgOUTdNTO SHRINEdPcOCKED FACE WITH EXPLODING HEADdOTING STAR",
   "dPPING BAGSjTROLLEYdRT BACKSLANTED SOUTH ARROWhENT ARROW POINTING DOWNWARDS THEN NORTH EAST",
   "gDOWN TACKp WITH OVERBARgLEFT TACKgRIGHTWARDS ARROW ABOVE LEFTWARDS ARROWgSLANTED NORTH ARROW",
   "gUP TACKn ABOVE SHORT DOWN TACKoWITH UNDERBARfCAKEfHAND FORMAT CONTINUING OVERLAPrDOWN STEP",
   "rLETTER OVERLAPrUP STEPfSdULDERED OPEN BOXdWERcRIMPdUGcUFFLE PRODUCTcYbIcDDHAM DANDA",
   "jOUBLE DANDAiEND OF TEXT MARKiLETTER AqAqIqLTERNATE UqUpBAqHApCAqHApDAqDArHAqHApEpGAqHApHApIqI",
   "pJAqHApKAqHApLApMApNAqGAqNAqYApOpPAqHApRApSAqHAqSApTAqHArREE-CIRCLE ALTERNATE IqTArHA",
   "qWO-CIRCLE ALTERNATE I/IpUqUpVAqOCALIC LyLxRyRpYAiREPETITION MARK-1y2y3",
   "iSECTION MARK DOUBLE RING) WITH RAYSvWITH CIRCLES AND FOUR ENCLOSURES:RAYS:TWO ENCLOSURES",
   "!DOUBLE CRESCENTS!QUADRUPLE CRESCENTS!RAYS AND DOTTED CRESCENTS>DOUBLE CRESCENTS",
   ">TRIPLE CRESCENTS!SEPTUPLE CRESCENTS!TRIDENT AND DOTTED CRESCENTS:U-SHAPED ORNAMENTS",
   "%PLE CRESCENTSkPARATOR BARsDOTjIGN ANUSVARAnCANDRABINDUnNUKTAnSIDDHAMnVIRAMApSARGA",
   "iVOWEL SIGN AAuIuLTERNATE U&UuUtEtIuItOtUuUtVOCALIC R$RdEWAYS BLACK DOWN POINTING INDEX",
   "pLEFT POINTING INDEXpRIGHT POINTING INDEXpUP POINTING INDEXjWHITE DOWN POINTING INDEX",
   "pLEFT POINTING INDEXpRIGHT POINTING INDEXpUP POINTING INDEXcGN OF THE HORNS",
   "eWRITING AIR BLOW SMALL ROTATIONSuING OUTqSUCK SMALL ROTATIONSuING INmBREATH EXHALEtINHALE",
   "oUSH BETWEENsMULTIPLEsSINGLEmCHEEKS NEUTRALtPUFFEDtSUCKEDnOLONoMMA",
   "mDREAMY EYEBROWS DOWN NEUTRAL$NEUTRAL DOWN.UP$UP NEUTRALnYNAMIC ARROWHEAD LARGE&SMALL",
   "uEVERY OTHER TIMEuFASTuGRADUALuRELAXEDuSIMULTANEOUS) ALTERNATINGvLOWuTENSEmEARSnXCITEMENT",
   "nYE BLINK MULTIPLEwSINGLEqWINKpBROWS STRAIGHT DOWN&NEUTRAL&UPpGAZE-FLOORPLANE CURVED(STRAIGHT",
   "; ALTERNATING<DOUBLEuWALLPLANE CIRCLING(URVED&STRAIGHT: ALTERNATING;DOUBLEpLASHES DOWN",
   "wFLUTTERINGwUPpS CLOSEDrHALF CLOSEDwOPENrOPENrSQUEEZEDrWIDE OPENvNING MOVEMENT",
   "mFACE DIRECTION POSITION NOSE FORWARD TILTING=UP OR DOWN~N TILTINGnILL MODIFIER-2!3!4!5!6oNGER",
   "nLICK LARGE MULTIPLEySINGLEsSEQUENTIALtMALL MULTIPLEySINGLEoOORPLANE SHOULDER HIP MOVE",
   "nOREHEAD CONTACTvNEUTRALvWRINKLEDnULL STOPmGRASP BETWEENsMULTIPLEsSINGLEmHAIRoND-ANGLEw INDEX",
   "$ MIDDLE LITTLE.RING%RING LITTLE< OUT%THUMB+ IN,OUTxLITTLE INDEX, THUMB INDEX THUMB~UMB OUT&UP",
   "xMIDDLE RING LITTLE= IN>OUTxRING DOWN MIDDLE THUMB INDEX CROSS$LITTLErCIRCLEx INDEX% BENT",
   "&HINGE&MIDDLE. CROSS LITTLE>ED/LITTLE/RING/THUMB&RING LITTLEyLITTLE INDEX(UP",
   "yMIDDLE RING LITTLE> BENT(UPyRING LITTLEsLAWv FOUR FINGERS CONJOINED",
   "wINDEX THUMB CURVE THUMB INSIDEwMIDDLE RING LITTLE CONJOINED~ SIDEwNO THUMBwTHUMB FORWARD$SIDE",
   "sUPu FIVE FINGERS SPREAD< OPENvINDEX! RING LITTLE#THUMB) OPENvMIDDLE RING LITTLEvNO THUMBvOPEN",
   "z NO THUMB!THUMB FORWARD)SIDEvTHUMB FORWARD#SIDEtRLICUEz INDEX RING LITTLE ON",
   "!MIDDLE RING LITTLE ON!OPENrFISTv FOUR FINGERS CONJOINED BENTwHEELwINDEX# BENT) OVER MIDDLE",
   "$CUPPED$HINGED+ LOW,MIDDLE UP@ THUMB SIDE$MIDDLE+ BENT; THUMB STRAIGHT,CONJOINED@ CUPPED",
   "~D THUMB FORWARD[HINGED~D THUMB SIDE[INDEX BENT[MIDDLE BENT[THUMB FORWARD~ SIDE~ SIDE BENT",
   "~ SIDE CONJOINED.ROSS LITTLE<ED> THUMB SIDE,HINGED= SPREAD THUMB SIDE,LITTLE,RAISED KNUCKLES",
   ".ING; BENT<CONJOINED,STRAIGHT THUMB BENT,THUMB< ANGLED^ OUT=BENT=CIRCLED>ONJOINED HINGED>UPPED",
   "=HINGED>OOKED,UP SPREAD THUMB FORWARD$RAISED KNUCKLE%ING LITTLE$THUMB ANGLED IN MIDDLE UP",
   "=OUT MIDDLE UP+CIRCLE<D MIDDLE UP,UPPED MIDDLE UP.RLICUE/VE THUMB INSIDE]UNDER",
   "+FORWARD INDEX BENT_STRAIGHT+HOOK:ED MIDDLE HINGED_UP+SIDE: BOTH BENT;INDEX BENT[HINGE",
   ";THUMB BENT[CONJOINED[DIAGONAL$UP MIDDLE HINGED@ THUMB CONJOINED~ SIDEwLITTLE BENT%DOWN",
   "* OTHERS CIRCLED+RIPPLE CURVED=STRAIGHT%INDEX+ THUMB%RAISED KNUCKLE%THUMB&OUCHES THUMB%UP",
   "wMIDDLE BENT OVER INDEX%DOWN%LITTLE%RAISED KNUCKLE&ING LITTLE%THUMB ANGLED INDEX UP",
   ">OUT INDEX CROSSED~X UP,CIRCLED INDEX HINGED|UP.UPPED INDEX UP,HOOKED INDEX UP,LITTLE%UP",
   "( THUMB SIDEwRING DOWN#INDEX#LITTLE#MIDDLE* CONJOINED+RAISED KNUCKLES#RAISED KNUCKLE#THUMB#UP",
   "wTHUMB# BETWEEN INDEX MIDDLE_ STRAIGHT.MIDDLE RING.RING LITTLE$FORWARD$HEEL",
   "$OVER FOUR RAISED KNUCKLES*TWO FINGERS$SIDE BENT*CONJOINED*DIAGONAL$UNDER FOUR FINGERS",
   "+INDEX BENT+LITTLE UP+THREE FINGERS,WO FINGERSsLATv BETWEEN PALM FACINGSwFIVE FINGERS SPREAD",
   "= BENT>FOUR BENT>HINGED_ NO THUMB|THUMB SIDE>THUMB FORWARDxOUR FINGERS+ BENT,CONJOINED@ SPLIT",
   ",HINGEDwHEEL! FIVE FINGERS SPREAD] BENT^FOUR BENT#THUMB SIDEwSPLIT CENTRE+ THUMB SIDE[ BENT",
   "$INDEX THUMB SIDE$LITTLEwTHUMB BENT$FORWARD$SIDErHINGEw FIVE FINGERS SPREAD OPEN",
   "yOUR FINGERS CONJOINEDxINDEX$ HINGED%MIDDLE LITTLE.RING< CONJOINED%RING LITTLE%THUMB+ LARGE",
   ",OPEN,SIDE.MALLxLITTLE% INDEX, THUMB&THUMBxMIDDLE% RING LITTLExNO THUMBxOPEN# NO THUMB",
   "$THUMB FORWARD+SIDExRING# DOWN INDEX THUMB HOOK MIDDLExSMALLxTHUMB BETWEEN MIDDLE RING%SIDE",
   "* TOUCHING INDEXsOOKv CURLICUEwINDEX RING LITTLE IN<OUT<UNDERwMIDDLE RING LITTLE CONJOINED~ IN",
   "~ OUT%THUMBwRING THUMBrOVALv FIVE FINGERS SPREADwINDEXwLITTLE UPwNO THUMBwRING LITTLE",
   "wTHUMB FORWARD$SIDEnEADq MOVEMENT CIRCLEz-FLOORPLANE CURVE/STRAIGHT!WALLPLANE CURVE.STRAIGHT",
   ".TILTrRIMmLIMB COMBINATIONrLENGTH-1y2y3y4y5y6y7oP LOWER OVER UPPERqUPPER OVER LOWER",
   "pS PRESSED TOGETHERnOCATION DEPTHvHEAD NECKxIGHTvLIMBS DIGITSvTORSOvWIDTHu-FLOORPLANE SPACE",
   "vWALLPLANE SPACEmMOUTH CLOSED CONTACTzFORWARDzNEUTRALtORNERSsFROWNx OPENyWRINKLEDsKISS",
   "w FORWARDxWRINKLEDsOPEN CIRCLExFORWARDxOVAL# WRINKLED$YAWNxRECTANGLE) WRINKLED*YAWNxWRINKLED",
   "sSMILEx OPENyWRINKLEDsTENSEx FORWARDySUCKEDsWRINKLES DOUBLE#SINGLEoVEMENT-DIAGONAL AWAY LARGE",
   "<ST,MEDIUM,SMALL&BETWEEN AWAY LARGE_ST?MEDIUM?SMALL:TOWARDS LARGE~EST]MEDIUM]SMALL",
   "&TOWARDS LARGE?ST:MEDIUM:SMALLvFLOORPLANE ARM CIRCLE HITTING WALL LARGE DOUBLE",
   "~ WALL LARGE SINGLE~ WALL MEDIUM DOUBLE~ WALL MEDIUM SINGLE~ WALL SMALL DOUBLE",
   "~ WALL SMALL SINGLE)BEND*OX LARGE.MEDIUM.SMALL)CHECK*ORNER LARGE;MEDIUM;SMALL*ROSS",
   "*URVE COMBINED:HITTING CEILING LARGE~ING SMALL]FLOOR LARGE~R SMALL:LARGE?ST:MEDIUM:SMALL",
   ")DOUBLE ALTERNATING~ WRIST FLEX;STRAIGHT;WRIST FLEX)FINGER CIRCLES HITTING WALL DOUBLE",
   "~TING WALL SINGLE<ONTACT)HUMP HITTING CEILING LARGE DOUBLE~NG LARGE TRIPLE~NG SMALL DOUBLE",
   "~NG SMALL TRIPLE[FLOOR LARGE DOUBLE~ SMALL DOUBLE~ TRIPLE LARGE TRIPLE~ TRIPLE SMALL TRIPLE",
   "/SMALL)JAW)LOOP HITTING CEILING LARGE DOUBLE~NG LARGE SINGLE~NG SMALL DOUBLE~NG SMALL SINGLE",
   "[FLOOR LARGE DOUBLE~ LARGE SINGLE~ SMALL DOUBLE~ SMALL SINGLE/SMALL)PEAKS LARGE:MEDIUM:SMALL",
   ")SHAKING PARALLEL*INGLE STRAIGHT LARGE~RGEST_MEDIUM_SMALL;WRIST FLEX",
   ")TRIPLE ALTERNATING MOVEMENT~ WRIST FLEX;STRAIGHT MOVEMENT;WRIST FLEX",
   ")WAVE HITTING CEILING LARGE~NG SMALL[FLOOR LARGE~ SMALL/LARGE/SMALL:NAKE",
   "*RIST CIRCLE HITTING WALL DOUBLE~NG WALL SINGLE)ZIGZAG LARGE;MEDIUM;SMALL",
   "vHINGE DOWN SEQUENTIAL#SIDE TO SIDE SCISSORS#UP DOWN ALTERNATING LARGE^SMALL,LARGE,SMALL",
   "&SEQUENTIALvWALLPLANE ARM CIRCLE MEDIUM DOUBLE|SINGLE>SMALL DOUBLE_SINGLE(BEND LARGE.MEDIUM",
   ".SMALL)OX LARGE,MEDIUM,SMALL(CHECK LARGE/MEDIUM/SMALL)ORNER LARGE:MEDIUM:ROTATION:SMALL)ROSS",
   ")URVE HALF-CIRCLE LARGE~ARGEST|MEDIUM|SMALL:ITTING CHEST[FRONT WALL/QUARTER LARGE~ST[MEDIUM",
   "[SMALL/THEN STRAIGHT;REE-QUARTER CIRCLE MEDIUM~ CIRCLE SMALL.D CROSS MEDIUM@SMALL",
   "(DOUBLE ALTERNATING| WRIST FLEX:STRAIGHT:WRIST FLEX(FINGER CIRCLES DOUBLE]SINGLE;ONTACT",
   "(HUMP HITTING CHEST@FRONT WALL.LARGE.MEDIUM.SMALL(JAW(LOOP HITTING CHEST@FRONT WALL.LARGE",
   ".MEDIUM.SMALL= DOUBLE(PEAKS LARGE/MEDIUM/SMALL(SHAKING)INGLE STRAIGHT LARGE~GEST^MEDIUM^SMALL",
   ":WRIST FLEX(TRIPLE ALTERNATING| WRIST FLEX:STRAIGHT MOVEMENT:WRIST FLEX",
   "(WAVE CURVE DOUBLE LARGE|MEDIUM|SMALL>TRIPLE LARGE|MEDIUM|SMALL.DIAGONAL PATH LARGE~MEDIUM",
   "~SMALL.HITTING CHEST@FRONT WALL)RIST CIRCLE FRONT DOUBLE~SINGLE(ZIGZAG LARGE:MEDIUM:SMALLmNECK",
   "nOSE CONTACTrNEUTRALrWIGGLESsRINKLESmPARENTHESISmROTATION MODIFIER-10(1(2(3(4(5(6&2&3&4&5&6&7",
   "&8&9u-FLOORPLANE ALTERNATING? HITTING CEILING~G FLOOR)DOUBLE: HITTING CEILING^FLOOR)SINGLE",
   ": HITTING CEILING^FLOORvWALLPLANE ALTERNATE;ING HITTING CHEST~ FRONT WALL(DOUBLE",
   "/ HITTING CHEST]FRONT WALL(SINGLE/ HITTING CHEST]FRONT WALLnUB BETWEENqMULTIPLEqSINGLE",
   "mSEMICOLONnHOULDER HIP POSITIONSzSPINEvTILTING FROM WAISTnQUEEZE FLICK ALTERNATING",
   "uLARGE MULTIPLE!SINGLEuSEQUENTIALvMALL MULTIPLE!SINGLEnTRIKE BETWEENtMULTIPLEtSINGLE",
   "nURFACE BETWEENuSYMBOLSmTEETHr BITE LIPSsMOVEMENTsON LIPSz MOVEMENTvTONGUE# MOVEMENT",
   "oNSE CHEEKS HIGHzLOWzMIDDLEnONGUE CENTRE INSIDE MOUTH!STICKING OUTtINSIDE MOUTH RELAXED",
   "tLICKING LIPStMOVES AGAINST CHEEKtSTICKING OUT FARtTIP BETWEEN LIPSxTOUCHING INSIDE MOUTH",
   "oRSO-FLOORPLANE TWISTINGsWALLPLANE CURVED BEND$STRAIGHT STRETCHoUCH BETWEENsMULTIPLEsSINGLE",
   "nRAVEL-FLOORPLANE ROTATION-FLOORPLANE ALTERNATING~DOUBLE~SINGLE;WALLPLANE ALTERNATING|DOUBLE",
   "|SINGLE&SHAKINGtWALLPLANE ARM SPIRAL DOUBLE<SINGLE<TRIPLE%ROTATION-FLOORPLANE ALTERNATING",
   "|DOUBLE|SINGLE:WALLPLANE ALTERNATING_DOUBLE_SINGLE%SHAKINGmUPPER BODY TILTING FROM HIP JOINTS",
   "mWALLPLANE SHOULDER HIP MOVEcLHOUETTE OF JAPANcMILAR ABOVE GREATER-THAN ABOVE EQUALS SIGN",
   "oLESS-THAN ABOVE EQUALS SIGNiMINUS SIMILARiOR GREATER-THANlLESS-THANcNE WAVE",
   "dGLE CHARACTER INTRODUCERhGRAPHIC CHARACTER INTRODUCERhHIGH-REVERSED-9 QUOTATION MARK",
   "hLEFT-POINTING ANGLE QUOTATION MARKiOW-9 QUOTATION MARKhRIGHT-POINTING ANGLE QUOTATION MARK",
   "hSHIFT THREEoWOg-SHIFT-2n3dHALA ARCHAIC DIGIT EIGHTwFIVExOURwNINEwONEwSEVENxIXwTHREExWO",
   "qNUMBER EIGHTYxFIFTYyORTYxNINETYxONE HUNDRED#THOUSANDxSEVENTYyIXTYxTENyHIRTYyWENTY",
   "iLETTER AAYANNAqEEYANNArYANNAqIYANNAqLPAPRAANA BAYANNA!CAYANNA!DAYANNA#DAYANNA!GAYANNA!JAYANNA",
   "!KAYANNA!PAYANNA!TAYANNA#TAYANNAqMBA BAYANNAqUYANNAqYANNApDANTAJA LAYANNAxNAYANNAxSAYANNA",
   "pEEYANNAqYANNApFAYANNApHAYANNApIIYANNAqLUUYANNAsYANNAqRUUYANNAsYANNAqYANNApKANTAJA NAASIKYAYA",
   "pMAHAAPRAANA BAYANNA#CAYANNA#DAYANNA$DAYANNA#GAYANNA#JAYANNA#KAYANNA#PAYANNA#TAYANNA$TAYANNA",
   "rYANNAqUURDHAJA LAYANNAzNAYANNAzSAYANNApOOYANNAqYANNApRAYANNApSANYAKA DAYANNAyDAYANNAxGAYANNA",
   "xJAYANNApTAALUJA NAASIKYAYAxSANYOOGA NAAKSIKYAYAzYANNApUUYANNAqYANNApVAYANNApYAYANNA",
   "jITH DIGIT EIGHTtFIVEuOURtNINEtONEtSEVENuIXtTHREEuWOtZEROiPUNCTUATION KUNDDALIYA",
   "iSIGN AL-LAKUNAoNUSVARAYAnCANDRABINDUnVISARGAYAiVOWEL SIGN AELA-PILLAtDIGA AEDA-PILLA",
   "yGAETTA-PILLA!YANUKITTAyIS-PILLAyKOMBUVAyPAA-PILLAtGAETTA-PILLAvYANUKITTAtKETTI AEDA-PILLA",
   "zIS-PILLAzPAA-PILLAuOMBU DEKAyVA! HAA AELA-PILLA(DIGA AELA-PILLA(GAYANUKITTA",
   "cX PETALLED BLACK AND WHITE FLORETTEfOINTED BLACK STARmPINWHEEL STARmSTAR WITH MIDDLE DOT",
   "d-PER-EM SPACEdTEEN POINTED ASTERISKbKATEBOARDcI AND SKI BOOTdERcULLf AND CROSSBONESdNK",
   "bLANTED EQUAL TO OR GREATER-THAN) WITH DOT INSIDEuLESS-THAN% WITH DOT INSIDE",
   "iNORTH ARROW WITH HOOKED HEAD#RIZONTAL TAILdVONIC ASTERISKcEDdEPING ACCOMMODATIONjFACEjSYMBOL",
   "fY FACEdUTH OR SPYcICE OF PIZZAdGHTLY FROWNING FACEjSMILING FACEcOPEeING LARGE ANDoOR",
   "dT MACHINEeHbMALL AIRPLANEhMPERSANDhSTERISKgBLUE DIAMONDgCOLONiMMAkERCIAL ATiNTAINS AS MEMBER",
   "pWITH OVERBARuVERTICAL BAR AT END OF HORIZONTAL STROKEgDOLLAR SIGNgELEMENT OFq WITH OVERBAR",
   "wVERTICAL BAR AT END OF HORIZONTAL STROKEhM DASHhQUALS SIGNhXCLAMATION MARKgFULL STOP",
   "gGREATER-THAN SIGNgHYPHEN-MINUSgIDEOGRAPHIC COMMAgLEFT CURLY BRACKETlPARENTHESIS",
   "lTORTOISE SHELL BRACKETiSS-THAN SIGNgNUMBER SIGNgORANGE DIAMONDgPERCENT SIGNhLUS SIGN",
   "gQUESTION MARKgREVERSE SOLIDUShIGHT CURLY BRACKETmPARENTHESISmTORTOISE SHELL BRACKET",
   "hOMAN NUMERAL EIGHTvLEVENuFIFTYwVEy HUNDREDvOURuNINEuONEx HUNDREDyTHOUSANDuSEVENvIXuTENvHREE",
   "vWELVEwOgSEMICOLONgTILDEhWO DOTS OVER ONE DOT PUNCTUATIONgVEE WITH UNDERBARfER THAN",
   "m OR EQUAL TOdSH PRODUCTcILEeING CAT FACE WITH HEART-SHAPED EYESwOPEN MOUTHiFACE WITH HALO",
   "tEART-SHAPED EYEStORNSsOPEN MOUTH$ AND COLD SWEAT*SMILING EYES*TIGHTLY-CLOSED EYES",
   "sSMILING EYES& AND HAND COVERING MOUTH,THREE HEARTStUNGLASSESsTEARdRKING FACEcOKING SYMBOL",
   "bNAILdKEcEEZING FACEcOW CAPPED MOUNTAINeBOARDEReFLAKEeMANh WITHOUT SNOWbOcCCER BALLdKS",
   "cFT HYPHENfICE CREAMfSHELL FLOPPY DISKeBALLeWARE-FUNCTION SYMBOLcGDIAN COMBINING CURVE ABOVE",
   "yBELOWsDOT ABOVEwBELOWsHOOK ABOVExBELOWsLONG HOOK BELOWsRESH BELOWsSTROKE BELOWsTWO DOTS ABOVE",
   "#BELOWiINDEPENDENT SHINiLETTER ALEPHqYINpBETHpFETHpGIMELpHErTHpKAPHpLAMEDHqESHpMEMpNUNpPE",
   "pRESH-AYINpSADHErMEKHqHINpTAWpWAWpYODHpZAYINiNUMBER ONEs HUNDREDpTENqWENTY",
   "iPUNCTUATION CIRCLE WITH DOTuHALF CIRCLE WITH DOTuTWO CIRCLES WITH DOTSyVERTICAL BARS",
   "/ WITH DOTScHcLID QUILT SQUARE ORNAMENT# IN BLACK SQUAREfUSh WITH OVERBARcM SIGN",
   "cON WITH RIGHTWARDS ARROW ABOVEcRA SOMPENG DIGIT EIGHTtFIVEuOURtNINEtONEtSEVENuIXtTHREEuWO",
   "tZEROnLETTER AHuBAHuCAHuDAHuEEHvHuGAHuHAHuIHuJAHuKAHuLAHuMAEwHuNAHvGAHvYAHuOHuPAHuRAHuSAHuTAH",
   "uUHuVAHuYAHcScUND RECORDING COPYRIGHTdTH EAST ARROWq AND SOUTH WEST ARROW",
   "rCROSSING NORTH EAST ARROWrTO CORNERrWITH HOOKlBLACK ARROWlDOUBLE ARROWlPOINTING BUDuLEAF",
   "uVINE LEAFlSANS-SERIF ARROWlTRIANGLE-HEADED ARROW) TO BARlWHITE ARROWgWEST ARROW",
   "q AND NORTH WEST ARROWrWITH HOOKlBLACK ARROWlDOUBLE ARROWlPOINTING BUDuLEAFuVINE LEAF",
   "lSANS-SERIF ARROWlTRIANGLE-HEADED ARROW) TO BARlWHITE ARROWcYOMBO CLUSTER-INITIAL LETTER LA(RA",
   "(SA)HAiFINAL CONSONANT SIGN -A%B%D%G%K%L%M%N&G%R%S&HiGEMINATION MARK",
   "iHEAD MARK WITH MOON AND SUN, AND FLAME<TRIPLE FLAMEiLETTER -ApApBAqHApCAqHApDAqDArHAqHAqZApGA",
   "qHApHApJAqHApKAqHAqSSApLApMApNAqGAqNAqYApPAqHApRApSAqHAqSApTAqHAqSArHAqTArHApVApYApZAqHA",
   "iMARK DOUBLE SHADnPLUTAnSHADnTSHEGiSIGN ANUSVARAnJIHVAMULIYAnUPADHMANIYAnVISARGAjUBJOINER",
   "iTERMINAL MARK-1w2iVOWEL LENGTH MARKoSIGN AIuUtEtItOuEtUuEtVOCALIC L#RbPcAdCEdGHETTIdRKLEhS",
   "gING HEARTcEAK-NO-EVIL MONKEYfERh WITH CANCELLATION STROKEnONE SOUND WAVEnTHREE SOUND WAVES",
   "fING HEAD IN SILHOUETTEdECH BALLOONeDBOATdSMILO SIGNcHERICAL ANGLEp OPENING LEFTyUPcIDERg WEB",
   "dRAL CALENDAR PADhNOTE PADhSHELLcLASHING SWEAT SYMBOLcONGEdOL OF THREADeNdRTS MEDAL",
   "dUTING WHALEbQUARE A OVER MiARUiMiNPEAiPAATOiRUHUAiUhBAARERUjRiEETAiIRUiORUTOiQiUSSYERU",
   "hC OVER KGiALjPiCiDiMj CUBEDkSQUAREDiOjRPORATIONiUPhDAjASUiBiESIiJiLiMj CUBEDkSQUAREDiORU",
   "hEEKAAiRA NAME HEISEIqMEIZIqREIWAqSYOUWAqTAISYOUjGiSUKUUDOiVhFMiOOTjUR CORNERShGALjNMAjRONiB",
   "iHZiIGAjNIIjRUDAAiPAiURAMUnTONiYhHAjITUiEKUTAARUjRUTUiGiIRAGANA HOKAiONjONkRUiPjAiUARADDOjIITO",
   "jRANiZhIMAGE OFp OR EQUAL TOtNOT EQUAL TOiNjINGUjTIiUhK OHMiAjIRIjRATTOkORIIiBiCALiEESUiGiHZ",
   "iIROlGURAMUlMEETORUlWATTOiKiLiMj CAPITALlUBEDkSQUAREDiOOPOjRUNAiPAiTiUROONEkUZEIROiViWiYURII",
   "hLEFT OPEN BOX OPERATORiMiNiOGjZENGEiXhM CUBEDjOHMkVER Sp SQUAREDjSQUAREDiAjHHAjIKUROkRUjNSYON",
   "jRUKUiBj SMALLiEETORUjGAlTONiGiHZiIKURONjLjRIlBAARUiLiMj CUBEDkSQUAREDiOLiPAiSiU AkFkGkLkMkSkV",
   "kWiVj MEGAiWj MEGAhNAjNOiFiMiOTTOiSiViWhONSUiOMUiRIGINAL OFs OR EQUAL TOwNOT EQUAL TOiVhPA",
   "j AMPSjASENTOkTUiCiEEZIjNIHIkSUjSOiFiHiIASUTORUjKOkURUiMiOINTOjNDOjSITION INDICATORiPMiRiSiViW",
   "hRADk OVER Sr SQUAREDiEMUjNTOGENiIGHT OPEN BOX OPERATORjRAjTTORUiOOTiUPIIjUBURUhSAIKURUjNTIIMU",
   "iENTIlOiIRINGUiRiVhTARGETiHZiONhUONhV OVER MhWATTOiBiITH BOTTOM HALF BLACKmCONTOURED OUTLINE",
   "mDIAGONAL CROSSHATCH FILLmHORIZONTAL FILLmLEFT HALF BLACKnOWER LEFT DIAGONAL HALF BLACK",
   "sRIGHT DIAGONAL HALF BLACKmORTHOGONAL CROSSHATCH FILLmRIGHT HALF BLACKmTOP HALF BLACK",
   "mUPPER LEFT DIAGONAL HALF BLACKxTO LOWER RIGHT FILLsRIGHT DIAGONAL HALF BLACK",
   "yTO LOWER LEFT FILLmVERTICAL FILLhYAADOkRUiUANgD ASTERISKiCJK UNIFIED IDEOGRAPH-4E00*9)2D)8C",
   ")A4&518D(21D)4D)72(3CC)F3(408)39(5B6(8F0(91A)29(B57(DE6(F8C&624B)53)95(307)55(599)B0(620(708*9",
   "(E80(F14&7121(51F)33(981(A7A(D42&89E3(CA9(D70&904A(14DjLjOOLiDOT OPERATORiEIGHT K",
   "iFALLING DIAGONAL SLASHjIVE POINT ONEjOUR DOT PUNCTUATIONnKjREEiHCjDRjI-RESjViIDiKATAKANA DE",
   "rKOKOrSAjEYiLATIN CAPITAL LETTER A%B%C%D%E%F%G%H%I%J%K%L%M%N%O%P%Q%R%S%T%U%V%W%X%Y%Z",
   "oSMALL LETTER DjOGICAL ANDqORkSSLESSiMINUSjViNEWjGiOKjNE HUNDRED TWENTY PiPLUSjPV",
   "iRISING DIAGONAL SLASHiSALTIREjDjECOND SCREENkVEN POINT ONEjHVjIXTY PjMALL CIRCLEjOSjQUAREjS",
   "iTHREE DjIMESjWENTY-TWO POINT TWOkO KiUHDjP WITH EXCLAMATION MARKiVODjSiWC",
   "eT BLACK RIGHTWARDS ARROWdIDbS2c3cAbTcADIUMdFF OF AESCULAPIUSjHERMESdMPED ENVELOPE",
   "dNDING PERSONdR AND CRESCENTfEQUALSfOF DAVIDgPERATORfWITH LEFT HALF BLACKkRIGHT HALF BLACK",
   "eT OF GUARDED AREAjHEADINGjPROTECTED AREAjSELECTED AREAkTRINGjTEXTdTIONeUE OF LIBERTY",
   "cEAM LOCOMOTIVEfING BOWLdNOGRAPHIC FULL STOPdTHOSCOPEcICK FIGUREm LEANING LEFTvRIGHT",
   "nWITH ARMS RAISEDsDRESScOCK CHARTdPWATCHcRAIGHT RULERiNESSeWBERRYdESS OUTLINED WHITE STAR",
   "dICTLY EQUIVALENT TOeNG TERMINATORcScUDIO MICROPHONEdFFED FLATBREADdPAcXbUBdSCRIPT EIGHT",
   "lQUALS SIGNkFIVElOURkLEFT PARENTHESISkMINUSkNINEkONEkPLUS SIGNkRIGHT PARENTHESISkSEVENlIX",
   "kTHREElWOkZEROeET ABOVE RIGHTWARDS ARROWnSUBSETpPERSEThOFj ABOVE ALMOST EQUAL TOqEQUALS SIGN",
   "qNOT EQUAL TOqTILDE OPERATORkOR EQUAL TOv WITH DOT ABOVEkWITH NOT EQUAL TOhWITH DOT",
   "mMULTIPLICATION SIGN BELOWmPLUS SIGN BELOWeTITUTEcCCEEDSi ABOVE ALMOST EQUAL TOpEQUALS SIGN",
   "pNOT ALMOST EQUAL TOtEQUAL TOpSINGLE-LINE EQUALS SIGN#NOT EQUAL TOjBUT NOT EQUIVALENT TO",
   "jOR EQUAL TOpIVALENT TOjUNDER RELATIONcMMATION BOTTOMkTOPkWITH INTEGRALcNd BEHIND CLOUD",
   "eWITH FACEdDANESE AVAGRAHAkCONSONANT SIGN PAMINGKAL#NYAKRA%IKU#SANGAN MA+WAkDIGIT EIGHTqFIVE",
   "rOURqNINEqONEqSEVENrIXqTHREErWOqZEROkLETTER AsErBAsHArCArDArEsUrFAsINAL KxMrGArHArIrJArKAsHA",
   "rLAsEUrMArNAsGAsYArOrPArQArRAsEUrSAsYArTArUrVArWArXArYArZAkPUNCTUATION BINDU BA SATANGA$CAKRA",
   "$DA SATANGA$KA SATANGA$LEU SATANGA$PANGLONG%URNAMA$SURYAkSIGN PAMAAEHrNGLAYARtWISADsYECEK",
   "pVIRAMAkVOWEL SIGN PAMEPETxNAELAENGyEULEUNGyGHULUyOLONGyYUKUdFLOWERdRISEh OVER MOUNTAINS",
   "dSET OVER BUILDINGScPERHEROfSCRIPT EIGHTnQUALS SIGNmFIVEnOURmLATIN SMALL LETTER I(N",
   "nEFT PARENTHESISmMINUSmNINEmONEmPLUS SIGNmRIGHT PARENTHESISmSEVENnIXmTHREEnWOmZERO",
   "gET ABOVE LEFTWARDS ARROWpSUBSETrPERSETjBESIDE AND JOINED BY DASH WITH SUBSETqSUBSETjOF",
   "l ABOVE ALMOST EQUAL TOsEQUALS SIGNsNOT EQUAL TOsTILDE OPERATORmOR EQUAL TOx WITH DOT ABOVE",
   "mWITH NOT EQUAL TOjPRECEDING SOLIDUSjWITH DOToMULTIPLICATION SIGN BELOWoPLUS SIGN BELOW",
   "fVILLAINcRFACE INTEGRALeERcSHIdPENSION RAILWAYbWANdSH AMPERSAND ORNAMENTcIMMERcUNG DASH",
   "bYLOTI NAGRI LETTER AuBHOvOuCHOvOuDDHOwOvHOvOuEuGHOvOuHOuIuJHOvOuKHOvOuLOuMOuNOuOuPHOvOuROvRO",
   "uSOuTHOvOvTHOwOuUnPOETRY MARK-1z2z3z4nSIGN ALTERNATE HASANTAtNUSVARAsDVISVARAsHASANTA",
   "nVOWEL SIGN AyEyIyOOyUcMBOL FOR ACKNOWLEDGElBACKSPACEmELLlCANCELnRRIAGE RETURN",
   "lDATA LINK ESCAPEmELETEr FORM TWOnVICE CONTROL FOUR!ONE!THREE#WOlEND OF MEDIUMsTEXT",
   "tRANSMISSION& BLOCKnQUIRYmSCAPElFILE SEPARATORmORM FEEDlGROUP SEPARATORlHORIZONTAL TABULATION",
   "lLINE FEEDlMARKS CHAPTERlNEGATIVE ACKNOWLEDGEnWLINEmULLlRECORD SEPARATORlSAMARITAN SOURCE",
   "mHIFT INrOUTmPACEmTART OF HEADINGuTEXTmUBSTITUTEv FORM TWOmYNCHRONOUS IDLElTYPE A ELECTRONICS",
   "lUNIT SEPARATORlVERTICAL TABULATIONdMETRYcNdAGOGUEdCHRONOUS IDLEcRIAC ABBREVIATION MARK",
   "hBARREKHhCOLON SKEWED LEFTuRIGHTjNTRACTIONhDOTTED ZLAMA ANGULARuHORIZONTALhEND OF PARAGRAPH",
   "iSASA ABOVEnBELOWhFEMININE DOThHARKLEAN ASTERISCUSqMETOBELUSqOBELUSiBASA ABOVEnBELOW",
   "m-ESASA DOTTEDiORIZONTAL COLONhLETTER ALAPHoBETHoDALATHpOTLESS DALATH RISHoEoFINAL SEMKATH",
   "oGAMALt GARSHUNIoHEqTHoKAPHoLAMADHoMALAYALAM BHAyJAyLLA!LAyNGAzNA!NAzYAyRAySSAyTTApIMoNUNoPE",
   "qRSIAN BHETHwDHALATHwGHAMALoQAPHoREVERSED PEpISHoSADHEpEMKATHpHINpOGDIAN FEwKHAPHwZHAIN",
   "pUPERSCRIPT ALAPHoTAWpETHs GARSHUNIoWAWoYUDHs HEoZAINhMUSIChOBLIQUE LINE ABOVEuBELOW",
   "hPTHAHA ABOVEoBELOWoDOTTEDhQUSHSHAYAhRBASA ABOVEnBELOWiUKKAKHAiWAHAhSUBLINEAR COLON",
   "w SKEWED LEFT&RIGHTrFULL STOPjPRALINEAR COLONy SKEWED LEFTtFULL STOPhTHREE DOTS ABOVEsBELOW",
   "iWO VERTICAL DOTS ABOVEzBELOWhZQAPHA ABOVEoBELOWoDOTTEDeNGEaT-REXcSHIRTbAB",
   "dLE TENNIS PADDLE AND BALLcCOcG AMPERSANDfPOSTROPHEfSTERISKeCIRCUMFLEX ACCENTfOLONgMMA",
   "iERCIAL ATeDIGIT EIGHTkFIVElOURkNINEkONEkSEVENlIXkTHREElWOkZEROfOLLAR SIGNeEQUALS SIGN",
   "fXCLAMATION MARKeFULL STOPeGRAVE ACCENTgEATER-THAN SIGNeHYPHEN-MINUSeLATIN CAPITAL LETTER AzB",
   "zCzDzEzFzGzHzIzJzKzLzMzNzOzPzQzRzSzTzUzVzWzXzYzZkSMALL LETTER AxBxCxDxExFxGxHxIxJxKxLxMxNxOxP",
   "xQxRxSxTxUxVxWxXxYxZfEFT CURLY BRACKETjPARENTHESISjSQUARE BRACKETgSS-THAN SIGNfOW LINE",
   "eNUMBER SIGNePERCENT SIGNfLUS SIGNeQUESTION MARKgOTATION MARKeREVERSE SOLIDUS",
   "fIGHT CURLY BRACKETkPARENTHESISkSQUARE BRACKETeSEMICOLONfOLIDUSfPACEeTILDEeVERTICAL LINE",
   "dALOG LETTER AqRCHAIC RApBApDApGApHApIpKApLApMApNAqGApPApRApSApTApUpWApYAiSIGN PAMUDPODnVIRAMA",
   "iVOWEL SIGN ItUdBANWA LETTER AqBAqDAqGAqIqKAqLAqMAqNArGAqPAqSAqTAqUqWAqYAjVOWEL SIGN IuU",
   "cI LE LETTER ApIpUEoEpEpHoFAoHAoIoKApHAoLAoMAoNApGAoOpOoPApHAoQAoSAoTApHApONE-2t3t4t5t6pSAqHA",
   "oUpEoVAoXAoYAeTHAM COMBINING CRYPTOGRAMMIC DOTlNSONANT SIGN BAyFINAL NGAyHIGH RATHA OR LOW PA",
   "yLA TANG LAIzOW PAyMAzEDIAL LA(RAySAjHORA DIGIT EIGHTuFIVEvOURuNINEuONEuSEVENvIXuTHREEvWOuZERO",
   "jLETTER AqBAqDAqEEqGREAT SAqHIGH CAwHAvFAvHAvKAwHAwXAvPAwHAvRATHAvSAwHAwSAvTAwHAvYAqIrIqLAsE",
   "rLArOW CAvHAuFAuHAuKAvHAvXAuPAvHAuRATHAuSAuTAvHAuYArUEqMAqNArGArYAqOOqRAsNAsTArUEqUrUqWA",
   "jSIGN CAANGoDOKMAIoHANGpOYoKAANsKUUpEOWpHUEN TONE-3z4z5t-LUE KARANoMAI KANGw LAIsSAMsYAMOK",
   "oRA HAAMpEVERSED ROTATED RANAoSAKOTqTKAANvKUUqWANoTONE-1t2oWIANGtWAAKjTHAM DIGIT EIGHTuFIVE",
   "vOURuNINEuONEuSEVENvIXuTHREEvWOuZEROjVOWEL SIGN AvAvEvIuEuIvIuMAI SATuOvA ABOVExBELOWvOvY",
   "uTALL AAvHAM AIuUvEvUwEeVIET LETTER HIGH BOvCHOwOvDOvFOvGOvHOvKHHOxOwOvLOvMOvNGOwOwYOvOvPHOwO",
   "vROvSOvTHOwOvVOvYOqLOW BOuCHOvOuDOuFOuGOuHOuKHHOwOvOuLOuMOuNGOvOvYOuOuPHOvOuROuSOuTHOvOuVOuYO",
   "jMAI KANGoHITjSYMBOL HO HOIqKOI KOIsNqNUENGqSAMjTONE MAI EKsNUENGsSONGsTHOjVOWEL AAqMqNqUEqYpE",
   "pIqApOpUqAqErAcKEOUT BOXdRI ABBREVIATION SIGNgDIGIT EIGHTmFIVEnOURmNINEmONEmSEVENnIXmTHREEnWO",
   "mZEROgLETTER AoAoIoRCHAIC KHAoUnBAoHAnCAoHAnDAoDApHAoHAnEnGAoHAnHAnIoInJAoHAnKAoHAnLAnMAnNAoGA",
   "oNAoYAnOnPAoHAnRAoRAnSAoHAnTAoHAoTApHAnUoUnVAnYAgSIGN ANUSVARAlNUKTAlVIRAMAnSARGA",
   "gVOWEL SIGN AAsIsUrErIsIrOrUsUcLLY MARK FIVElONEcMALEdIL AND ODD SIGNhS ABOVE SIGN",
   "hU LENGTH MARKgCREDIT SIGNhURRENT SIGNgDAY SIGNhEBIT SIGNhIGIT EIGHTmFIVEnOURmNINEmONEmSEVEN",
   "nIXmTHREEnWOmZEROhRY CULTIVATION SIGNgFRACTION DOWNSCALING FACTOR KIIZHpONE EIGHTHyIETHtFIFTH",
   "uORTIETHtHALF-1y2tONE-HUNDRED-AND-SIXTIETHtQUARTERtSIXTEENTH-1%2xY-FOURTHtTENTHuHIRTY-SECOND",
   "vREE-HUNDRED-AND-TWENTIETHuWENTIETHpTHREE EIGHTIETHSvQUARTERSvSIXTEENTHSzY-FOURTHSvTWENTIETHS",
   "gIN POSSESSION SIGNgLAND SIGNhETTER AoAoIoUnCAnEoEnHAnIoInJAnKAnLAoLApLAnMAnNAoGAoNApNAoYAnOoO",
   "nPAnRAoRAnSAoHAoSAnTAoTAnUoUnVAnYAgMONTH SIGNgNUMBER ONE HUNDREDrTHOUSANDnSIGNnTENgOM",
   "gPUNCTUATION END OF TEXTgRUPEE SIGNgSALT PAN SIGNhIGN AAZHAAKKUmNUSVARAlCEVITUlKAACUmURUNInZHI",
   "lMUKKURUNInTHALIYAnUVUZHAKKUlNELlPAARAMnNAMnTHAKKUmONlUZHAKKUlVAKAIYARAAnRAAKANmELImIRAMA",
   "nSARGAhPENT SIGNhTARTING FROM SIGNgTOTAL SIGNhRADITIONAL CREDIT SIGNsNUMBER SIGNgVOWEL SIGN AA",
   "sIsUrEsErIsIrOsOrUsUgWET CULTIVATION SIGNgYEAR SIGNcNABATA TREEdGERINEeSA DIGIT EIGHTnFIVEoOUR",
   "nNINEnONEnSEVENoIXnTHREEoWOnZEROhLETTER ACpQpWCqQqXqZpXpZoBAoCApHAoDApHAoECpQpXpZoFApINAL NG",
   "oGApHAoHApTAqTAoICpQpXpZoKApHAoLApONG UEXoMApCpQpXpZoNApGApHApYAoOCpQpXpZoPApHAoRAoSApHA",
   "qORT AWXuUEZoTApHApSAoUCpECqQqXqZpICqQqUCrQrXrZqXqZpQpXpZoVCpQpXpZoWAoXAoYAoZA",
   "eUT COMPONENT-001t2t3t4t5t6t7t8t9s10t1t2t3t4t5t6t7t8t9s20t1t2t3t4t5t6t7t8t9s30t1t2t3t4t5t6t7t8",
   "t9s40t1t2t3t4t5t6t7t8t9s50t1t2t3t4t5t6t7t8t9s60t1t2t3t4t5t6t7t8t9s70t1t2t3t4t5t6t7t8t9s80t1t2",
   "t3t4t5t6t7t8t9s90t1t2t3t4t5t6t7t8t9r100t1t2t3t4t5t6t7t8t9s10t1t2t3t4t5t6t7t8t9s20t1t2t3t4t5t6",
   "t7t8t9s30t1t2t3t4t5t6t7t8t9s40t1t2t3t4t5t6t7t8t9s50t1t2t3t4t5t6t7t8t9s60t1t2t3t4t5t6t7t8t9s70",
   "t1t2t3t4t5t6t7t8t9s80t1t2t3t4t5t6t7t8t9s90t1t2t3t4t5t6t7t8t9r200t1t2t3t4t5t6t7t8t9s10t1t2t3t4",
   "t5t6t7t8t9s20t1t2t3t4t5t6t7t8t9s30t1t2t3t4t5t6t7t8t9s40t1t2t3t4t5t6t7t8t9s50t1t2t3t4t5t6t7t8t9",
   "s60t1t2t3t4t5t6t7t8t9s70t1t2t3t4t5t6t7t8t9s80t1t2t3t4t5t6t7t8t9s90t1t2t3t4t5t6t7t8t9r300t1t2t3",
   "t4t5t6t7t8t9s10t1t2t3t4t5t6t7t8t9s20t1t2t3t4t5t6t7t8t9s30t1t2t3t4t5t6t7t8t9s40t1t2t3t4t5t6t7t8",
   "t9s50t1t2t3t4t5t6t7t8t9s60t1t2t3t4t5t6t7t8t9s70t1t2t3t4t5t6t7t8t9s80t1t2t3t4t5t6t7t8t9s90t1t2",
   "t3t4t5t6t7t8t9r400t1t2t3t4t5t6t7t8t9s10t1t2t3t4t5t6t7t8t9s20t1t2t3t4t5t6t7t8t9s30t1t2t3t4t5t6",
   "t7t8t9s40t1t2t3t4t5t6t7t8t9s50t1t2t3t4t5t6t7t8t9s60t1t2t3t4t5t6t7t8t9s70t1t2t3t4t5t6t7t8t9s80",
   "t1t2t3t4t5t6t7t8t9s90t1t2t3t4t5t6t7t8t9r500t1t2t3t4t5t6t7t8t9s10t1t2t3t4t5t6t7t8t9s20t1t2t3t4",
   "t5t6t7t8t9s30t1t2t3t4t5t6t7t8t9s40t1t2t3t4t5t6t7t8t9s50t1t2t3t4t5t6t7t8t9s60t1t2t3t4t5t6t7t8t9",
   "s70t1t2t3t4t5t6t7t8t9s80t1t2t3t4t5t6t7t8t9s90t1t2t3t4t5t6t7t8t9r600t1t2t3t4t5t6t7t8t9s10t1t2t3",
   "t4t5t6t7t8t9s20t1t2t3t4t5t6t7t8t9s30t1t2t3t4t5t6t7t8t9s40t1t2t3t4t5t6t7t8t9s50t1t2t3t4t5t6t7t8",
   "t9s60t1t2t3t4t5t6t7t8t9s70t1t2t3t4t5t6t7t8t9s80t1t2t3t4t5t6t7t8t9s90t1t2t3t4t5t6t7t8t9r700t1t2",
   "t3t4t5t6t7t8t9s10t1t2t3t4t5t6t7t8t9s20t1t2t3t4t5t6t7t8t9s30t1t2t3t4t5t6t7t8t9s40t1t2t3t4t5t6t7",
   "t8t9s50t1t2t3t4t5t6t7t8t9s60t1t2t3t4t5t6t7t8hITERATION MARKcPE CARTRIDGEfDRIVEcURUScXI",
   "bEACUP WITHOUT HANDLEdPOTdR-OFF CALENDAReDROP-BARBED RIGHTWARDS ARROWjSPOKED ASTERISKcDDY BEAR",
   "cLEPHONE LOCATION SIGNkON TOP OF MODEMkRECEIVERs WITH PAGEnORDERkSIGNeSCOPEeVISION",
   "dUGU AI LENGTH MARKhDIGIT EIGHTnFIVEoOURnNINEnONEnSEVENoIXnTHREEoWOnZERO",
   "hFRACTION DIGIT ONE FOR EVEN POWERS OF FOUR&ODD POWERS OF FOURwTHREE FOR EVEN POWERS OF FOUR",
   ")ODD POWERS OF FOURxWO FOR EVEN POWERS OF FOUR&ODD POWERS OF FOURwZERO FOR ODD POWERS OF FOUR",
   "hLENGTH MARKjTTER ApApIpUoBApHAoCApHAoDApDAqHApHApZAoEpEoGApHAoHAoIpIoJApHAoKApHAoLApLAqLAoMA",
   "oNAqKAARA POLLUpGApNApYAoOpOoPApHAoRApRAqRAoSApHApSAoTApHApSApTAqHAoUpUoVApOCALIC LxLwRxRoYA",
   "hSIGN ANUSVARAnVAGRAHAmCANDRABINDUnOMBINING ANUSVARA ABOVEwCANDRABINDU ABOVEmNUKTAmSIDDHAM",
   "mTUUMUmVIRAMAoSARGAhVOWEL SIGN AAtItUsEtEsItIsOtOsUtUsVOCALIC L#L!R#RcNGE SIGN",
   "dNIS RACQUET AND BALLdTcST TUBEcTRAGRAM FOR ACCUMULATIONpDVANCEpGGRAVATIONpSCENToBARRIER",
   "pOLD RESOLUTIONpRANCHING OUToCENTREpHANGEpLOSED MOUTHtNESSsUREpOMPLETIONtIANCEqNSTANCYrTACT",
   "sENTIONsRARIETYoDARKENINGpECISIVENESSqFECTIVENESS OR DISTORTIONqPARTUREpIFFICULTIESqMINISHMENT",
   "rMINGqVERGENCEpOUBTpUTIESoEASEpMBELLISHMENTpNCOUNTERSqDEAVOURqLARGEMENTpTERNITYpXHAUSTION",
   "oFAILUREpLIGHTpOLLOWINGqSTERINGpULL CIRCLEsNESSoGATHERINGx INpOING TO MEETpREATNESSpUARDEDNESS",
   "oHARDNESSpOLDING BACKoINCREASEqNERoJOYoKEEPING SMALLpINSHIPoLABOURINGqW OR MODELpEGIONoMASSING",
   "pEASUREpIREDoON THE VERGEpPPOSITIONoPACKINGqTTERNpENETRATIONpURITYoREACHqLEASEqSIDENCEsSTANCE",
   "rPONSEpITUALoSEVERANCEpINKINGpTOPPAGErVEqRENGTHoUNITYoVASTNESS OR WASTINGoWAITINGqTCH",
   "oYOUTHFULNESSbHAANA AABAAFILIiBAFILIhEBEFILIiEBEEFILIiYBEYFILIhIBIFILIhLETTER AINUpLIFUoBAA",
   "oCHAVIYANIoDAADHUqVIYANIpHAALUoFAAFUoGAAFUpHAINUpNAVIYANIoHAApHAAoJAVIYANIoKAAFUpHAAoLAAMU",
   "pHAVIYANIoMEEMUoNAApOONUoPAVIYANIoQAAFUoRAAoSAADHUpEENUpHAVIYANIqEENUoTAVIYANIpHAAsLUpOpTAA",
   "oVAAVUoWAAVUoYAAoZAAqVIYANIpOhOABOAFILIiBOFILIiOBOOFILIhSUKUNhUBUFILIdI CHARACTER ANGKHANKHU",
   "pBO BAIMAIpCHO CHANxGvINGvOEpDO CHADAsDEKpFO FAuNrNGMANpHO HIPsNOKHUKpKHO KHAIvONvUATvWAI",
   "tRAKHANGsMUTqO KAIpLAKKHANGYAOqO CHULAsLINGqUpMAI CHATTAWAtEKtHAN-AKATtTHOuRIsTAIKHUsYAMOK",
   "qO MApNGO NGUqIKHAHITqO NENtUpO ANGpPAIYANNOIqHINTHUrO PHANvUNGtSAMPHAOqO PLApRO RUAqUpSARA A",
   "vAvEvI MAIMALAI#UANvMuEuIvIuOuUvEwEvUqO RUSIsSALAtOtUApTHANTHAKHATrO NANGMONTHOtPHUTHAOtTHAHAN",
   "wNvONGvUNGqO PATAKsTAOpWO WAENpYAMAKKANqO YAKtINGgURRENCY SYMBOL BAHTfDIGIT EIGHTlFIVEmOUR",
   "lNINElONElSEVENmIXlTHREEmWOlZEROcERE DOES NOT EXISTgEXISTSfFOREeMODYNAMICgMETERcIN GREEK CROSS",
   "fSALTIREgPACEeKING FACEdRD PLACE MEDALcONG SANDALdUGHT BALLOONcREE BUTTON MOUSE",
   "gCONSECUTIVE EQUALS SIGNSgDIMENSIONAL ANGLEhOT PUNCTUATIONgLEFTWARDS ARROWS",
   "hINES CONVERGING LEFTxRIGHTgNETWORKED COMPUTERSgPOINTED BLACK STARgRAYS ABOVElBELOWlLEFTlRIGHT",
   "hIGHTWARDS ARROWSgSPEECH BUBBLESf-D BOTTOM-LIGHTED RIGHTWARDS ARROWHEAD",
   "iLEFT-LIGHTED DOWNWARDS EQUILATERAL ARROWHEADiRIGHT-LIGHTED UPWARDS EQUILATERAL ARROWHEAD",
   "iTOP-LIGHTED LEFTWARDS EQUILATERAL ARROWHEADuRIGHTWARDS ARROWHEAD(EQUILATERAL ARROWHEAD",
   "gEM DASHgPER-EM SPACEcUMBS DOWN SIGNhUP SIGNdNDER CLOUD AND RAINhSTORM",
   "bIBETAN ASTROLOGICAL SIGN -KHYUD PA!SDONG TSHUGS#GRA GCAN -CHAR RTAGS",
   "iCANTILLATION SIGN CANG TE-U!HEAVY BEAT!LIGHT BEAT!SBUB -CHALiDIGIT EIGHToFIVEpOURoHALF EIGHT",
   "tFIVEuOURtNINEtONEtSEVENuIXtTHREEuWOtZEROoNINEoONEoSEVENpIXoTHREEpWOoZEROiKU RU KHA",
   "r BZHI MIG CANiLETTER -ApApBAqHApCAqHApDAqDArHAqHAqZArHApFIXED-FORM RApGAqHApHApJApKAqHAqKA",
   "qSSApLApMApNAqGAqNAqYApPAqHApRAqRApSAqHAqSApTAqHAqSArHAqTArHApWApYApZAqHA",
   "jOGOTYPE SIGN CHAD RTAGSwLHAG RTAGSiMARK ANG KHANG GYASzONnBKA- SHOG GI MGO RGYANxYIG MGO",
   "oSDUS RTAGSpKA- SHOG GI MGO RGYANqUR YIG MGOnCARET -DZUD RTAGS BZHI MIG CAN(ME LONG CAN",
   "tYIG MGO PHUR SHAD MAoHE MGOoLOSING BRDA RNYING YIG MGO SGAB MAvYIG MGO SGAB MA",
   "nDELIMITER TSHEG BSTARnGTER TSHEGsYIG MGO -UM GTER TSHEG MA&RNAM BCAD MA!TRUNCATED A",
   "oUG RTAGS GYASzONnHALANTAnINITIAL BRDA RNYING YIG MGO MDUN MAvYIG MGO MDUN MA",
   "pTERSYLLABIC TSHEGnLEADING MCHAN RTAGSnMNYAM YIG GI MGO RGYANnNGAS BZUNG NYI ZLAySGOR RTAGS",
   "oYIS SHADsTSHEGx SHADnPALUTAnRGYA GRAM SHADoIN CHEN SPUNGS SHADnSBRUL SHADoHAD",
   "nTRAILING MCHAN RTAGSoSA -PHRUpHEG SHADnYIG MGO TSHEG SHAD MAiSIGN GRU CAN RGYINGSrMED RGYINGS",
   "nINVERTED MCHU CANnLCE TSA CANpI RTAGSnMAR TSHESoCHU CANnNYI ZLA NAA DAnRDEL DKAR GCIGyNYIS",
   "ySUMxRDEL NAGsNAG GCIGxNYISxSUMwRDEL DKARoJES SU NGA ROoNAM BCADnSNA LDANnYANG RTAGSpR TSHES",
   "jUBJOINED LETTER -AzAzBA!HAzCA!HAzDA!DA#HA!HA!ZA#HAzFIXED-FORM RA.WA.YAzGA!HAzHAzJAzKA!HA!SSA",
   "zLAzMAzNA!GA!NA!YAzPA!HAzRAzSA!HA!SAzTA!HA!SA#HA!TA#HAzWAzYAzZA!HAsSIGN INVERTED MCHU CAN",
   "xLCE TSA CANxMCHU CANjYLLABLE OMkMBOL DRIL BUpNOR BUv BZHI -KHYILwGSUM -KHYILwNYIS -KHYIL",
   "pPADMA GDANqHUR PApRDO RJEw RGYA GRAMiVOWEL SIGN AAtEuEtIuItOuOtREVERSED I%ItUuUtVOCALIC L$L#R",
   "$RcCKETcE OVER INFINITYcFINAGH CONSONANT JOINERjLETTER AHAGGAR YAZHrYER YAGH",
   "qBERBER ACADEMY YAH*JqTAWELLEMET YAZrUAREG YAGH!NzHzK!HzNGzQzZHqYAsAsBtHsCHsDtDuHtHsFsGtHuHsH",
   "tHsJsKtHuHsLsMsNsPsQsRtRsStHtSsTtHtTsVsWsYsZtHtZrEsYrIrOrUjMODIFIER LETTER LABIALIZATION MARK",
   "jSEPARATOR MARKcGERf FACEdHT TRIFOLIATE SNOWFLAKEcLDEf OPERATORo ABOVE LEFTWARDS ARROW",
   "vRIGHTWARDS ARROWpWITH DOT ABOVEuRISING DOTSgWITH DOT ABOVEpBELOWlRING ABOVEcMER CLOCK",
   "eS WITH LEFT HALF BLACKlRIGHT HALF BLACKcNYe TWO DOTS OVER ONE DOT PUNCTUATIONcRED FACE",
   "dHUTA ABBREVIATION SIGNjNJIiDIGIT EIGHToFIVEpOURoNINEoONEoSEVENpIXoTHREEpWOoZEROiGVANG",
   "iLETTER AqAqIqUpBAqHApCAqHApDAqDArHAqHApEpGAqHApHApIqIpJAqHApKAqHApLApMApNAqGAqNAqYApOpPAqHA",
   "pRApSAqHAqSApTAqHAqTArHApUqUpVAqOCALIC LyLxRyRpYAiOMiSIGN ANUSVARAoVAGRAHAnCANDRABINDUnNUKTA",
   "nVIRAMApSARGAiVOWEL SIGN AAuIuUtEtIuItOtSHORT EzOtUuUtVOCALIC L$L#R$RdONIAN SIGN CAPITAL EToET",
   "bOILETcKYO TOWERcMATOcNGUEcOLBOXdTHfBRUSHcP ARC ANTICLOCKWISE ARROW# WITH PLUS",
   "iCLOCKWISE ARROW WITH MINUSeCURLY BRACKETeHALF BLACK CIRCLEjINTEGRALjLEFT PARENTHESIS",
   "jRIGHT PARENTHESISjSECTION SIGNgTeLEFT CORNERkROPjHALF BRACKETePARENTHESISeRIGHT CORNERlROP",
   "kHALF BRACKETeSQUARE BRACKETeTORTOISE SHELL BRACKETeWITH UPWARDS ARROW ABOVE",
   "cRTOISE SHELL BRACKETED CJK UNIFIED IDEOGRAPH-4E09|8C^52DD_B89^6253_557_72C^70B9_6D7",
   "zLATIN CAPITAL LETTER ScTAL RUNOUTdO LETTER AnEmBAnREATHY AEuEvOuIvUmCHAmDAmEnOmGAmHAmInUmJA",
   "mKAmLAmMAmNAnGAmOmPAmRAmSAmTAmUmWAmYAfSIGN RISING TONEbRACKBALLeTORdDE MARK SIGNdINdMe CAR",
   "dNSPLUTOfVERSAL INTERSECTIONcIANGLE WITH DOT ABOVEoROUNDED CORNERSoSERIFS AT BOTTOMoUNDERBAR",
   "i-HEADED RIGHTWARDS ARROWgULAR BULLETlFLAG ON POSTlRULERdCOLONdDENT EMBLEMdGRAM FOR EARTHmFIRE",
   "mHEAVENmLAKEmMOUNTAINmTHUNDERmWATERnINDdPLE COLON OPERATORhDAGGER",
   "hHORIZONTAL BAR WITH DOUBLE VERTICAL STROKE#TRIPLE VERTICAL STROKEhINTEGRAL",
   "hNESTED GREATER-THANoLESS-THANhPLUSiRIMEhSOLIDUS BINARY RELATIONhTILDE",
   "hVERTICAL BAR BINARY RELATIONuDELIMITERuRIGHT TURNSTILEuWITH HORIZONTAL STROKEcOLLfEYBUSdPHY",
   "eICAL DRINKjFISHcUEe LIGHT MOON ARTAdMPETbUGRIK SIGNcLIPcMBLER GLASScRKEYeISH LIRA SIGN",
   "dNED AMPERSANDiNGLEhBLACK PENTAGONnSHOGI PIECEhCAPITAL FiOMMAhDAGGERiIGIT THREEoWO",
   "hGREEK SMALL LETTER IOTAhNORTH EAST POINTING LEAFnWEST POINTING LEAFjT SIGNhOK HAND SIGN",
   "hSANS-SERIF CAPITAL G!L!YiEMICOLONiMALL FiOUTH EAST POINTING LEAFnWEST POINTING LEAF",
   "hWHITE SHOGI PIECEdTLEbWELVE POINTED BLACK STARcISTED RIGHTWARDS ARROWS",
   "cO ASTERISKS ALIGNED VERTICALLYeBUTTON MOUSEeCONSECUTIVE EQUALS SIGNSeDOT LEADERiPUNCTUATION",
   "hS OVER ONE DOT PUNCTUATIONeHEARTSeINTERSECTING LOGICAL ANDzOReJOINED SQUARES",
   "eLOGICAL AND OPERATORmOR OPERATOReMEN HOLDING HANDSeSPEECH BUBBLESeWOMEN HOLDING HANDS",
   "d-EM DASHaUGARITIC LETTER AINrLPAqBETAqDELTArHALqGAMLArHAINqHOsTAqIqKAFrHAqLAMDAqMEMqNUNqPU",
   "qQOPAqRASHAqSADEsMKArHINrSUqTETrHANNArOqUqWOqYODqZETArUjWORD DIVIDERbMBRELLAi ON GROUND",
   "jWITH RAIN DROPSbNAMUSED FACEcCERTAINTY SIGNcDERTIEdO SYMBOLcICORN FACEdON",
   "f ABOVE BAR ABOVE INTERSECTIONmINTERSECTIONgBESIDE AND JOINED WITH UNIONgWITH LOGICAL OR",
   "lMINUS SIGNlOVERBARdT SEPARATOReED SYMBOLdVERSAL RECYCLING SYMBOLcMARRIED PARTNERSHIP SYMBOL",
   "bP ARROW THROUGH CIRCLEiHEADm BETWEEN TWO HORIZONTAL BARSnIN A RECTANGLE BOX",
   "dBARB LEFT DOWN BARB LEFT HARPOONxRIGHT HARPOONiRIGHT DOWN BARB LEFT HARPOONyRIGHT HARPOON",
   "dDOWN ARROWn WITH BASEiBLACK ARROWiDOUBLE ARROWiSANS-SERIF ARROWiTRIANGLE-HEADED ARROW",
   "iWHITE ARROWdFISH TAILdRIGHT DIAGONAL ELLIPSISdTACKh WITH CIRCLE ABOVEc-POINTING AIRPLANE",
   "mMILITARY AIRPLANEmRED TRIANGLEmSMALL AIRPLANEsRED TRIANGLEmTRIANGLE WITH LEFT HALF BLACK",
   "!RIGHT HALF BLACKcPER AND LEFT AND LOWER TRIANGULAR THREE QUARTERS BLOCKlOWER ONE EIGHTH BLOCK",
   "qTRIANGULAR HALF BLOCKkRIGHT AND LOWER TRIANGULAR THREE QUARTERS BLOCKgBLADE SCISSORS",
   "gFIVE EIGHTHS BLOCKgHALF BLOCKq AND LOWER HALF INVERSE MEDIUM SHADElCIRCLE",
   "lINVERSE MEDIUM SHADE AND LOWER HALF BLOCKtWHITE CIRCLElMEDIUM SHADE",
   "gLEFT BLOCK DIAGONAL LOWER CENTRE TO LOWER MIDDLE RIGHT>UPPER MIDDLE RIGHT_RIGHT",
   ")LEFT TO LOWER MIDDLE RIGHT<UPPER CENTRE]MIDDLE RIGHT)MIDDLE LEFT TO UPPER CENTRE",
   "~ER MIDDLE RIGHT~ER RIGHT!UPPER MIDDLE LEFT TO UPPER CENTRE~ER RIGHTlCORNER WITH DOT",
   "lOR LOWER RIGHT CURLY BRACKET SECTIONlQUADRANT CIRCULAR ARClTO LOWER RIGHT FILLmRIANGLE",
   "rULAR MEDIUM SHADEgONE EIGHTH BLOCKkQUARTER BLOCK",
   "gRIGHT BLOCK DIAGONAL LOWER MIDDLE LEFT TO LOWER CENTRE~WER RIGHT",
   "#UPPER CENTRE TO LOWER MIDDLE RIGHT|RIGHT?UPPER MIDDLE RIGHT*LEFT TO LOWER CENTRE^MIDDLE RIGHT",
   "=UPPER MIDDLE RIGHT*MIDDLE LEFT TO LOWER CENTRE~WER MIDDLE RIGHT~WER RIGHT",
   "mDROP-SHADOWED WHITE SQUAREmOR LOWER LEFT CURLY BRACKET SECTIONmPENCILmQUADRANT CIRCULAR ARC",
   "mSHADOWED WHITE CIRCLE#SQUAREmTO LOWER LEFT FILLnRIANGLEsULAR MEDIUM SHADEgSEVEN EIGHTHS BLOCK",
   "gTHREE EIGHTHS BLOCKmQUARTERS BLOCKhRIANGULAR ONE QUARTER BLOCKcSIDE-DOWN FACEcWARDS ANCORA",
   "jRROWn AND RIGHT ONE EIGHTH BLOCKoFROM BARoLEFTWARDS OF DOWNWARDS ARROWoTO BAR",
   "oWITH DOUBLE STROKEtEQUILATERAL ARROWHEADtHORIZONTAL STROKEtLARGE TRIANGLE ARROWHEAD",
   "tMEDIUM TRIANGLE ARROWHEADtNOTCHED TAILtSMALL EQUILATERAL ARROWHEADzTRIANGLE ARROWHEAD",
   "tTIP LEFTWARDSxRIGHTWARDSiBLACK ARROWoCIRCLED WHITE ARROWiCOMPRESSED ARROWiDASHED ARROW",
   "jOUBLE ARROWiFINGER-POST ARROWiHARPOON WITH BARB LEFT BESIDE DOWNWARDS HARPOON WITH BARB RIGHT",
   ":UPWARDS HARPOON WITH BARB RIGHT(FROM BAR(TO BAR&WARDS!RIGHT FROM BAR)TO BAR(WARDSjEAVY ARROW",
   "oCOMPRESSED ARROWiPAIRED ARROWSiQUADRUPLE ARROWiROCKETiSANS-SERIF ARROWjQUARED ARROW",
   "iTRIANGLE ARROWHEADq-HEADED ARROW% LEFTWARDS OF DOWNWARDS TRIANGLE-HEADED ARROW&TO BAR",
   "&WITH BOLD SHAFT,DOUBLE HORIZONTAL STROKE,HEAVY SHAFT,LONG TIP LEFTWARDS@RIGHTWARDS",
   ",MEDIUM SHAFT,NARROW SHAFT,VERY HEAVY SHAFTyDASHED ARROWyPAIRED ARROWSlPLE ARROW",
   "jWO HEADED ARROWl-HEADED ARROW FROM SMALL CIRCLEzWITH TRIANGLE ARROWHEADSiWHITE ARROW",
   "t FROM BAR$ WITH HORIZONTAL BARuON PEDESTAL( WITH HORIZONTAL BAR/VERTICAL BAR",
   "uWITHIN TRIANGLE ARROWHEADoDOUBLE ARROW! ON PEDESTALbRANUSbSaVAI COMMAeDIGIT EIGHTkFIVElOUR",
   "kNINEkONEkSEVENlIXkTHREElWOkZEROeFULL STOPeQUESTION MARKeSYLLABLE AoNnBAoEpEoHApEqEpIpOqOpUoI",
   "oOpOoUnCAoEpEoIoOpOoUnDAoEpEoHApEqEpHAqErEqIqOrOqUpIpOqOpUoIoOpOoUnEoEpNoNnFAoEpEoIoOpOoUnGA",
   "oBApEqEqNpIpOqNqOpUoEpEpNoIoOpOoUnHApNoEpEpNoIpNoOpNpOoUpNnIoNnJAoEpEoIoOpOoUnKApNoEpEoIoOpO",
   "oPAqNpEqEqNpIpOqOpUoUnLAoEpEpNGTHENERoIoOpOoUnMAoBApEqEpIpOqOpUoEpEoGBAqErEqIqOrOqUoIoOpOoUnNA",
   "oDApEqEpIpOqLE DOtFAtKAtMAtSOOqOpUoEpEoGpANpENpGAqErErNqIqOrOqUpONoIoJApEqEpIpOqOpUoOpOoUoYApE",
   "qEpIpOqOpUnOoNoOpNnPAoEpEoIoOpOoUnRAoEpEoIoOpOoUnSAoEpEoHApEqEpIpOqOpUoIoOpOoUnTAoEpEoHApEqEpI",
   "pOqOpUoIoOpOoUnUoNnVAoEpEoIoOpOoUnWApNoEpEqNpNoIpNoOpNpOqNoUpNnYAoEpEoIoOpOoUnZAoEpEoHApEqEpI",
   "pOqOpUoIoOpOoUgMBOL BANGlDANGmO-OnONGlFAAmEENGlJONGlKEENGmUNGlNIIlTAAmINGmONGcMPIRE",
   "cRIATION SELECTOR-1u0v0v1v2v3v4v5v6v7v8v9u1v0v1v2v3v4v5v6v7v8v9u2v0v1v2v3v4v5v6v7v8v9u3v0v1v2",
   "v3v4v5v6v7v8v9u4v0v1v2v3v4v5v6v7v8v9u5v0v1v2v3v4v5v6v7v8v9u6v0v1v2v3v4v5v6v7v8v9u7v0v1v2v3v4v5",
   "v6v7v8v9u8v0v1v2v3v4v5v6v7v8v9u9v0v1v2v3v4v5v6v7v8v9t2u0v0v1v2v3v4v5v6v7v8v9u1v0v1v2v3v4v5v6v7",
   "v8v9u2v0v1v2v3v4v5v6v7v8v9u3v0v1v2v3v4v5v6v7v8v9u4v0v1v2v3v4v5v6v7v8v9u5v0v1v2v3v4v5v6u6u7u8u9",
   "t3u0u1u2u3u4u5u6u7u8u9t4u0u1u2u3u4u5u6u7u8u9t5u0u1u2u3u4u5u6u7u8u9t6u0u1u2u3u4u5u6u7u8u9t7u0u1",
   "u2u3u4u5u6u7u8u9t8u0u1u2u3u4u5u6u7u8u9t9u0u1u2u3u4u5u6u7u8u9bECTOR OR CROSS PRODUCT",
   "cDIC SIGN ANUSVARA ANTARGOMUKHAuBAHIRGOMUKHAuUBHAYATO MUKHAuVAMAGOMUKHA( WITH TAILmRDHAVISARGA",
   "mTIKRAMAlDOUBLE ANUSVARA ANTARGOMUKHAlHEXIFORM LONG ANUSVARAlJIHVAMULIYAlLONG ANUSVARA",
   "lNIHSHVASAlREVERSED VISARGA ANUDATTA$UDATTAmOTATED ARDHAVISARGAmTHANG LONG ANUSVARAlTIRYAK",
   "lUPADHMANIYAlVISARGA ANUDATTA# WITH TAILtSVARITAtUDATTAz WITH TAILlYAJURVEDIC MIDLINE SVARITA",
   "gTONE ATHARVAVEDIC INDEPENDENT SVARITAlCANDRA ABOVEsBELOWlDOT BELOWnUBLE RING ABOVEsSVARITA",
   "lKARSHANAnTHAKA ANUDATTAlPRENKHAlRIGVEDIC KASHMIRI INDEPENDENT SVARITAnNG ABOVElSHARA",
   "lTHREE DOTS BELOWmRIPLE SVARITAmWO DOTS BELOWlYAJURVEDIC AGGRAVATED INDEPENDENT SVARITA",
   "wINDEPENDENT SVARITAwKATHAKA INDEPENDENT SVARITA| SCHROEDERcRSICLE",
   "dTICAL BAR BESIDE RIGHT TRIANGLEnDOUBLE LEFT TURNSTILEnTRIPLE RIGHT TURNSTILE",
   "nWITH HORIZONTAL STROKEjELLIPSISjFOUR DOTSjIDEOGRAPHIC ITERATION MARKjKANA REPEAT MARK",
   "z LOWER HALF!UPPER HALFvWITH VOICED SOUND MARK? UPPER HALFjLINEn EXTENSIONoWITH CIRCLE ABOVE",
   "!BELOWtMIDDLE DOTjMALE WITH STROKE SIGNjONE EIGHTH BLOCK-2!3!4!5!6!7jSIX DOTSjTAB KEYmULATION",
   "t SETkILDEkRAFFIC LIGHTjZIGZAG LINEdY BOLD GREEK CROSSfHEAVY EIGHT POINTED BLACK STAR",
   "rSPOKED ASTERISKlFIVE SPOKED ASTERISKlGREEK CROSSlREVERSE SOLIDUSlSALTIREmIX SPOKED ASTERISK",
   "mOLIDUSlWHITE CIRCLErSQUAREfMUCH GREATER-THANkLESS-THANcSTAbIBRATION MODEcCTORY HAND",
   "cDEO CAMERAgGAMEfCASSETTEcETNAMESE ALTERNATE READING MARK CA+NHAYdWDATA SQUAREcOLINcRGO",
   "cTHKUQI CAPITAL LETTER AyBBEzEyCEzHEyDEzHEyEzIyFEyGAyHAzHAyIzJEyJEyKAyLAzLAyMEyNEzJEyOyPEyQA",
   "yREySEzHEyTEzHEyUyVEyXEyYyZEjSMALL LETTER AwBBExEwCExHEwDExHEwExIwFEwGAwHAxHAwIxJEwJEwKAwLAxLA",
   "wMEwNExJEwOwPEwQAwREwSExHEwTExHEwUwVEwXEwYwZEbOIDED GREEK CROSScLCANOdLEYBALLdUME INTEGRALbS1",
   "d0e0e1e2e3e4e5e6e7e8e9d1e0e1e2e3e4e5e6e7e8e9d2e0e1e2e3e4e5e6e7e8e9d3e0e1e2e3e4e5e6e7e8e9d4e0e1",
   "e2e3e4e5e6e7e8e9d5e0e1e2e3e4e5e6e7e8e9d6e0e1e2e3e4e5e6e7e8e9d7e0e1e2e3e4e5e6e7e8e9d8e0e1e2e3e4",
   "e5e6e7e8e9d9e0e1e2e3e4e5e6e7e8e9c2d0e0e1e2e3e4e5e6e7e8e9d1e0e1e2e3e4e5e6e7e8e9d2e0e1e2e3e4e5e6",
   "e7e8e9d3e0e1e2e3e4e5e6e7e8e9d4e0e1e2e3e4e5e6e7e8e9d5e0e1e2e3e4e5e6d6d7d8d9c3d0d1d2d3d4d5d6d7d8",
   "d9c4d0d1d2d3d4d5d6d7d8d9c5d0d1d2d3d4d5d6d7d8d9c6d0d1d2d3d4d5d6d7d8d9c7d0d1d2d3d4d5d6d7d8d9c8d0",
   "d1d2d3d4d5d6d7d8d9c9d0d1d2d3d4d5d6d7d8d9bTcSbULCANUSdGAR FRACTION FIVE EIGHTHSvSIXTHS",
   "rOUR FIFTHSqONE EIGHTHuFIFTHuHALFuNINTHuQUARTERuSEVENTHvIXTHuTENTHvHIRDqSEVEN EIGHTHS",
   "qTHREE EIGHTHSwFIFTHSwQUARTERSrWO FIFTHSuTHIRDSqZERO THIRDSaWAFFLEcNCHO DIGIT EIGHTnFIVEoOUR",
   "nNINEnONEnSEVENoIXnTHREEoWOnZEROhLETTER ApAqNrGpNGpUoBAoCAoDAoEpNoFAoGAoHAoIpNGoJAoKApHAoLA",
   "pLHAoMAoNApGApYAoOpNqGoPApHAoRAoSApHAoTApHApRApSAoUpENoVAoWAoYApIHoZAhNGUN SIGNhTONE KOIpNI",
   "mTUPpNIdING CRESCENT MOON SYMBOLhGIBBOUS MOON SYMBOLcRANG CITI CAPITAL LETTER A$M$NG$T#BU#DA#E",
   "$NN%Y#GA#HAR$IYO$OLO%RR#II#KO#NGAA$UNG#O$DD#PU#SII$SUU#TTE#UC$U#VIYO#WI#YA$O$U%JmDIGIT EIGHT",
   "sFIVEtOURsNINEsONEsSEVENtIXsTHREEtWOsZEROmNUMBER EIGHTYtFIFTYuORTYtNINETYtSEVENTYuIXTYtTEN",
   "uHIRTYuWENTYmOMmSMALL LETTER A!M!NG!TzBUzDAzE!NN#YzGAzHAR!IYO!OLO#RRzIIzKOzNGAA!UNGzO!DDzPU",
   "zSII!SUUzTTEzUC!UzVIYOzWIzYA!O!U#JdNING SIGNcSTEBASKETcTCHdER BUFFALOgCLOSETgPOLOgWAVEfMELON",
   "cVE ARROW POINTING DIRECTLY LEFT%RIGHTfDASHdING BLACK FLAGhHAND SIGNhWHITE FLAGdY DASHfLINE",
   "gOW LINEfOVERLINEcXING CRESCENT MOON SYMBOLhGIBBOUS MOON SYMBOLbEARY CAT FACEgFACEcDDING",
   "dGE-TAILED RIGHTWARDS ARROWcIERSTRASS ELLIPTIC FUNCTIONdGHT LIFTERcST SYRIAC CROSSbHALEcEEL",
   "f OF DHARMAfCHAIR SYMBOLcITE ARROW SHAFT WIDTH ONEyTWO THIRDSgBULLETgCHESS BISHOP",
   "s ROTATED NINETY DEGREES#TWO HUNDRED SEVENTY DEGREESmEQUIHOPPERw ROTATED NINETY DEGREESmKING",
   "q ROTATED NINETY DEGREESzTWO HUNDRED SEVENTY DEGREESnNIGHTs ROTATED FORTY-FIVE DEGREES",
   "#NINETY DEGREES#ONE HUNDRED THIRTY-FIVE DEGREES#THREE HUNDRED FIFTEEN DEGREES",
   "$WO HUNDRED SEVENTY DEGREES;TWENTY-FIVE DEGREESs-BISHOPtQUEENtROOKmPAWN",
   "q ROTATED NINETY DEGREESzTWO HUNDRED SEVENTY DEGREESmQUEENr ROTATED NINETY DEGREES",
   "!TWO HUNDRED SEVENTY DEGREESmROOKq ROTATED NINETY DEGREESzTWO HUNDRED SEVENTY DEGREES",
   "mTURNED BISHOPtKINGuNIGHTtPAWNtQUEENtROOKhIRCLEm CONTAINING BLACK SMALL CIRCLEnWITH DOT RIGHT",
   "uWN ARROWsLOWER LEFT QUADRANTyRIGHT QUADRANTsTWO DOTSsUPPER LEFT QUADRANTyRIGHT QUADRANT",
   "hLUB SUIThONCAVE-SIDED DIAMOND# WITH LEFTWARDS TICK*RIGHTWARDS TICKgDIAMOND",
   "n CONTAINING BLACK MEDIUM DIAMOND(SMALL DIAMOND(VERY SMALL DIAMONDoIN SQUAREoSUIT",
   "oWITH CENTRED DOThOWN POINTING BACKHAND INDEXuINDEXuLEFT HAND INDEXk-POINTING SMALL TRIANGLE",
   "uTRIANGLEhRAUGHTS KINGpMANgEXCLAMATION MARK ORNAMENTgFLAGk WITH HORIZONTAL MIDDLE BLACK STRIPE",
   "iORETTEjWERhOUR POINTED CUSPtSTARhROWNING FACEgHARD SHELL FLOPPY DISKhEARTl SUITjVY CHECK MARK",
   "mSALTIRE WITH ROUNDED CORNERSiXAGONhORIZONTAL ELLIPSEiURGLASSgLARGE SQUAREiTIN CROSS",
   "hEFT LANE MERGElPOINTING BACKHAND INDEXuINDEXk-POINTING POINTERuSMALL TRIANGLEuTRIANGLE",
   "hOZENGE CONTAINING BLACK SMALL LOZENGEgMEDIUM DIAMONDnLOZENGEnSMALL SQUAREoQUAREoTAR",
   "hOON SELENAgNIBgPARALLELOGRAMhENNANTjTAGONgQUESTION MARK ORNAMENTgRECTANGLE",
   "hIGHT POINTING BACKHAND INDEXvINDEXl-POINTING PENTAGONwOINTERvSMALL TRIANGLEvTRIANGLEgSCISSORS",
   "hESAME DOThHOGI PIECEhMALL LOZENGEmSQUAREnTARiILING FACEhPADE SUIThQUAREm BUTTON",
   "nCONTAINING BLACK MEDIUM SQUARE&SMALL SQUARE&VERY SMALL SQUAREnWITH CENTRE VERTICAL LINE",
   "sLEFTWARDS TICKtOWER LEFT QUADRANTyRIGHT QUADRANTsRIGHTWARDS TICKtOUNDED CORNERS",
   "sUPPER LEFT QUADRANTyRIGHT QUADRANTsVERTICAL BISECTING LINEhTARhUNj BEHIND CLOUDw WITH RAIN",
   "kWITH RAYSpSMALL CLOUDgTELEPHONEhOUCHTONE TELEPHONEhRAPEZIUM",
   "iIANGLE CONTAINING SMALL WHITE TRIANGLEhWO-WAY LEFT WAY TRAFFICgUP POINTING BACKHAND INDEX",
   "sINDEXi-POINTING CHEVRONsSMALL TRIANGLEsTRIANGLE! WITH DOTgVERTICAL BARpELLIPSEpRECTANGLE",
   "jY SMALL SQUAREf-FEATHERED RIGHTWARDS ARROWbIDE-HEADED DOWNWARDS BARB ARROWwHEAVY BARB ARROW",
   "wLIGHT BARB ARROWwMEDIUM BARB ARROWwVERY HEAVY BARB ARROWmLEFTWARDS BARB ARROW",
   "wHEAVY BARB ARROWwLIGHT BARB ARROWwMEDIUM BARB ARROWwVERY HEAVY BARB ARROW",
   "mNORTH EAST BARB ARROWxHEAVY BARB ARROWxLIGHT BARB ARROWxMEDIUM BARB ARROW",
   "xVERY HEAVY BARB ARROWsWEST BARB ARROWxHEAVY BARB ARROWxLIGHT BARB ARROWxMEDIUM BARB ARROW",
   "xVERY HEAVY BARB ARROWmRIGHTWARDS BARB ARROWxHEAVY BARB ARROWxLIGHT BARB ARROW",
   "xMEDIUM BARB ARROWxVERY HEAVY BARB ARROWmSOUTH EAST BARB ARROWxHEAVY BARB ARROW",
   "xLIGHT BARB ARROWxMEDIUM BARB ARROWxVERY HEAVY BARB ARROWsWEST BARB ARROWxHEAVY BARB ARROW",
   "xLIGHT BARB ARROWxMEDIUM BARB ARROWxVERY HEAVY BARB ARROWmUPWARDS BARB ARROWuHEAVY BARB ARROW",
   "uLIGHT BARB ARROWuMEDIUM BARB ARROWuVERY HEAVY BARB ARROWcGGLY VERTICAL LINEcLTED FLOWER",
   "cND BLOWING FACEfCHIMEeOWdE GLASSdKING FACEcRED KEYBOARDbJbOLF FACEcMANf WITH BUNNY EARS",
   "fS BOOTShCLOTHEShHAThSANDALdENS SYMBOLcN SIGNcODcRD JOINERfSEPARATOR MIDDLE DOTdLD MAPdM",
   "dRIED FACEbRAPPED PRESENTcEATH PRODUCTdNCHdSTLERScITING HANDaX IN A RECTANGLE BOXb-RAY",
   "bIANGQI BLACK CANNONpHARIOToELEPHANToGENERALoHORSEoMANDARINoSOLDIERiRED CANNONnHARIOTmELEPHANT",
   "mGENERALmHORSEmMANDARINmSOLDIERbORaYAWNING FACEbELLOW HEARTcN SIGNcZIDI COMBINING HAMZA MARK",
   "rMADDA MARKhHYPHENATION MARKhLETTER BEoCHHIMqIMpIMoDADqLoELIFpTpWpYNoFAoGAFoHAYpHAoJAoKAFpHAF",
   "oLAMr WITH DOT ABOVEoMIMoNUNoOWoPEpHEoQAFoRApHAoSADpEpHINpINoTApHEoUMoVAq ALTERNATE FORMoWAW",
   "oXApHEYNoYOTr WITH CIRCUMFLEX ABOVEoZAqLpEbI RADICAL BBUTmURlCHEmIPmUOPmYnPnTlDDURmUlGAmEPmGOP",
   "nUOmOTlHMOmXITnOPnUOlJJIEnUTnYmOlKEmITlLInEmYRlMImOPlNBIEmYIPnOPmZUPlOPlPUTmYTlQOTlSHATnOPnUR",
   "nYmSIlTATmUlVEPmURlWOlYITmOlZAmOTmUPnRmZIETdSYLLABLE AnPnTnXmBAoPoToXnBApPpTpXoEpPpXoIpEqPqTqX",
   "pPpTpXoOpPpTpXoUpOqPqXpPpRqXpTpXoYpPpTpXnEoPoXnIoEpPpTpXoPoToXnOoPoToXnUoOpPpXoPoRpXoToXnYoPoR",
   "pXoToXmCAoPoToXnEoPoXnHApPpTpXoEpPpTpXoOpPpTpXoUpOqPqTqXpPpRqXpXoYpPpRqXpTpXnIoEpPpTpXoPoToXnO",
   "oPoToXnUoOpPpXoPoRpXoToXnYoPoRpXoToXmDAoPoToXnDApPpTpXoEpPpXoIpEqPqXpPpTpXoOpPpTpXoUpOqPqXpPpR",
   "qXpTpXnEoPoXnIoEpPpXoPoToXnOoPoToXnUoOpXoPoRpXoToXmEnXmFAoPoToXnIoPoToXnOoPoXnUoPoRpXoToXnYoP",
   "oToXmGAoPoToXnEoPoToXnGApPpTpXoEpPpTpXoIpEqPqXpTpXoOpPpTpXoUpOqPqTqXpPpRqXpTpXnIoEpPpTpXoPoToX",
   "nOoPoToXnUoOpPpTpXoPoRpXoToXmHAoPoToXnEoPoXnIEpXoTnLApPpTpXoEpPpXoIpEqPqXpPpTpXoOpPpXoUpOqPqX",
   "pPpRqXpTpXoYpPpRqXpTpXnMApPpTpXoIpEqPqXpPpTpXoOpPpTpXoUpOqPqXpPpRqXpTpXoYpPpRqXpXnNApPpTpXoEpP",
   "pXoIpEqPqTqXpPpTpXoOPpTpXoUOqXpTnOoPoToXnUOpPpTpXnXApPpTpXoEpPpXoIpEqPqTqXpPpTpXoOpPpTpXoUOqP",
   "qTqXmInEoPoToXnPnToERATION MARKnXmJIoEpPpTpXoPoToXnJIpEqPqTqXpPpTpXoOpPpTpXoUpOqPqXpPpRqXpTpX",
   "oYpPpTpXnOoPoToXnUoOpPpTpXoPoRpXoToXnYoPoRpXoToXmKAoPoToXnEoPoToXnIoEpPpXoPoToXnOoPoToXnUoOpP",
   "pXoPoRpXoToXmLAoPoToXnEoPoXnIoEpPpTpXoPoToXnOoPoToXnUoOpPpTpXoPoRpXoToXnYoPoRpXoToXmMAoPoToXnE",
   "oXnGApPpTpXoEpPpXoIEqXoOpPpTpXoUpOqPqXpPpRqXpTpXnIoEpPpXoPoToXnOoPoToXnUoOpPpTpXoPoRpXoToXnYoP",
   "oToXmNAoPoXnBApPpTpXoIpEqPqXpPpTpXoOpPpTpXoUpPpRqXpTpXoYpPpRqXpTpXnDApPpTpXoEpPpXoIpEqXpPpTpX",
   "oOpPpTpXoUpPpRqXpTpXnEoPoXnGApPpTpXoEpPpXoIEqPqXoOpPpTpXoUOqTqXnIoEpPpXoPoToXnJIpEqPqTqXpPpTpX",
   "oOpPpTpXoUpOqXpPpRqXpXoYpPpRqXpTpXnOoPoToXnRApPpTpXoEpPpTpXoOpPpXoUpPpRqXpTpXoYpPpRqXpTpXnUoO",
   "pPpXoPoRpXoToXnYIpEqPqTqXpPpTpXoOpPpTpXoUpOqPqXpPpTpXnZApPpTpXoEpXoIpEqPqXpPpTpXoOPpXoUpOqXpP",
   "pRqXpXoYpPpRqXpTpXmOnPnTnXmPAoPoToXnIoEpPpXoPoToXnOoPoToXnUoOpPpXoPoRpXoToXnYoPoRpXoToXmQIoEpP",
   "pTpXoPoToXnOoPoToXnUoOpPpTpXoPoRpXoToXnYoPoRpXoToXmRAoPoToXnEoPoXnOoPoToXnRApXoEpPpTpXoOpPpTpX",
   "oUpOqXpPpRqXpTpXoYpPpRqXpTpXnUoOpPpXoPoRpXoToXnYoPoRpXoToXmSAoPoToXnEoPoXnHApPpTpXoEpPpTpXoOpP",
   "pTpXoUpOqPqXpPpRqXpTpXoYpPpRqXpTpXnIoEpPpXoPoToXnOoPoToXnSApPpTpXoEpPpXoIpEqPqXpPpTpXoOpPpTpX",
   "oUpPpTpXoYpPpRqXpTpXnUoOpPpXoPoRpXoToXnYoPoRpXoToXmTAoPoToXnEoPoXnIoEpPpXoPoToXnOoPoToXnUoOpP",
   "pTpXoPoRpXoToXmUOoPoXmVAoPoToXnEPoXnIoEpPpTpXoPoToXnOoPoToXnUoPoRpXoToXnYoPoRpXoToXmWAoPoToXnE",
   "oPoXnOoPoXnUoOpPpXmXIoEpPpTpXoPoToXnOoPoToXnUOpXnYoPoRpXoToXmYIoEpPpTpXoPoToXnOoPoToXnUoOpPpT",
   "pXoPoRpXoToXnYoPoRpXoToXmZAoPoToXnEoPoXnHApPpTpXoEpPpTpXoOpPpTpXoUpOqPqXpPpRqXpTpXoYpPpRqXpTpX",
   "nIoEpPpXoPoToXnOoPoToXnUoOpPpXoPoRpXoToXnYoPoRpXoToXnZApPpTpXoEpPpXoIpEqPqTqXpPpTpXoOpPpXoUpP",
   "pRqXpXoYpPpRqXpTpXcN YANGbO-YOaZ NOTATION BAG MEMBERSHIPlDOMAIN ANTIRESTRICTION",
   "lLEFT BINDING BRACKETqIMAGE BRACKETlRANGE ANTIRESTRICTIONmELATIONAL COMPOSITION",
   "mIGHT BINDING BRACKETrIMAGE BRACKETlSCHEMA COMPOSITIONsPIPINGtROJECTIONmPOTlTYPE COLON",
   "bANABAZAR SQUARE CLOSING DOUBLE-LINED HEAD MARKzHEAD MARKtUSTER-FINAL LETTER LA:RA:VA:YA",
   "zINITIAL LETTER RArFINAL CONSONANT MARKrINITIAL DOUBLE-LINED HEAD MARKzHEAD MARKrLETTER -AyA",
   "yBAzHAyCAzHAyDAzDA!HAzHAzZA!HAyGAzHAyHAyJAyKAzHAzSSAyLAyMAyNAzGAzNAzYAyPAzHAyRAySAzHAzSAyTAzHA",
   "zSA!HAzTA!HAyVAyYAyZAzHArMARK DOUBLE SHADwLONG TSHEGwSHADwTSHEGrSIGN ANUSVARA",
   "wCANDRA WITH ORNAMENT$BINDU* WITH ORNAMENTwVIRAMAySARGAsUBJOINERrVOWEL LENGTH MARKxSIGN AI%U$E",
   "$I$O%E$REVERSED I$U%EbEBRA FACEcRO WIDTH JOINERlNO-BREAK SPACEnN-JOINERlSPACEcUS",
   "bIPPER-MOUTH FACEbNAMENNY COMBINING ATTACHING VERTICAL OMETtLOWER TONAL RANGE INDICATOR",
   "tMARK BORZAYAyCHASHKA( POLNAYAzURVED OMETyDEMESTVENNY ZADERZHKAzVOETOCHIE",
   "yGORAZDO NIZKO ON LEFT=RIGHT:S KRYZHEM ON LEFT~ RIGHT)VYSOKOyKACHKAzRYZH% ON LEFTzUPNAYAyLOMKA",
   "yMALO POVYSHE ON LEFT<RIGHT/S KHOKHLOM ON LEFT~ RIGHT<RYZHEM:TRANNOyNIZKO ON LEFT*RIGHT",
   "&S KRYZHEM ON LEFT?RIGHTyOBLACHKOzNzTSECHKAyPODCHASHIE+ WITH VERTICAL STROKE#VERTKA",
   "!VYSHE ON LEFT,RIGHT)S KHOKHLOM ON LEFT]RIGHT,RYZHEM*TRANNOyRAVNO!ZSEKAySKOBAzOROCHYA NOZHKA",
   "zREDNE ON LEFT+RIGHTzTRANNO MALO POVYSHEyTIKHAYAzOCHKAzSATA ON LEFT*RIGHT&S KRYZHEMyUDARKA",
   "yVYSOKO ON LEFT+RIGHT(S KHOKHLOM ON LEFT[RIGHT+RYZHEMyZADERZHKAzELO!VOK",
   "tTONAL RANGE MARK MRACHNO.SVETLO.TRESVETLOjNEUME CHASHKArELYUSTKApDEMESTVENNY KLYUCHrRBITSA",
   "qOUBLE ZAPYATAYAqUDAqVA V CHELNUpFITApGOLUBCHIK BORZYzMRACHNYzSVETLYzTIKHY!RESVETLYpKHAMILO",
   "qLYUCHqOBYLAqRYUKu TIKHYsZHqUFISMApMECHIKv KLYUCHENEPOSTOYANNY%POVODNY%VOYwPOVODNYpNEMKA",
   "pOBLAKOqSOKAu KLYUCHEVAYA NEPOSTOYANNAYA*SVETLAYAwRYUKOVAYA SVETLAYAvSVETLAYAvTRESVETLAYA",
   "pPALKArRAKLITrUKqEREVODKAy NEPOSTOYANNAYAqODCHASHIErLKULIZMYpREVERSED CHELYUSTKAqOG",
   "pSKAMEYTSA DVOECHELNAYA KLYUCHEVAYA:NEPOSTOYANNAYA:PROSTAYA:SVETLAYAzKLYUCHENEPOSTOYANNAYA",
   ")VAYA SVETLAYA/TIKHAYAzMRACHNAYAzSVETLAYAzTIKHAYA!RESVETLAYAqLOZHITIEy S KRYZHEM#ZAPYATOY",
   "zZAKRYTOEqTATYAv NEPOSTOYANNAYAwS DVUMYA ZAPYATYMIyKRYZHEM( I ZAPYATOYyROGOMyZAPYATOY",
   ") I KRYZHEM,PODCHASHIEMwZAKRYTAYA( S ZAPYATOYrOPITSAx S OCHKOMyWITH SOROCHYA NOZHKA",
   "rRELA DVOECHELNAYA+ KLYUCHEVAYA(OKRYZHEVAYA)POVODNAYA= KLYUCHEVAYAwGROMNAYA",
   "& WITH SINGLE ZAPYATAYA!OKRYZHEVAYA/ POVODNAYA#POVODNAYA. WITH DOUBLE ZAPYATAYA",
   ">SINGLE ZAPYATAYAwKLYUCHENEPOSTOYANNAYA%POVODNAYAxRYUKOVAYA) GROMNAYA= WITH SINGLE ZAPYATAYA",
   "/OKRYZHEVAYA_ POVODNAYA:POVODNAYA^ WITH DOUBLE ZAPYATAYA~TH SINGLE ZAPYATAYA*POVODNAYA*TRYASKA",
   "zZHEVAYAwMRACHNOTIKHAYAwNEPOSTOYANNAYAwPOLUPOVODNAYAyVODNAYAxROSTAYAwTIKHAYA PUTNAYA",
   "xRYASOGLASNAYA$POVODNAYA$STRELNAYApVRAKHIYA KLYUCHEVAYA MRACHNAYA.PROSTAYA.SVETLAYA",
   ".TRESVETLAYAyMRACHNAYAyPROSTAYAySVETLAYAyTRESVETLAYApZANOZHEKrPYATAYAqMEYTSA",
   "jPRIZNAK MODIFIER DIRECTION FLIP!KRYZH!LEVEL-2)3!ROGbOMBIEbWJcNBSPdJcSP"]

end SuiteCompiler.Text
